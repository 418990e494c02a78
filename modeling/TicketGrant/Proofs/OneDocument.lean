import TicketGrant.Config
import TicketGrant.Json.Table
import TicketGrant.Metadata
import TicketGrant.Proofs.Json.Accepted
import TicketGrant.Proofs.Json.Places
import TicketGrant.Scope
import TicketGrant.Secret

/-!
# One document in a body

All that is decoded of a body is a text, a list or an object, which ends with a mark of its own. So the
reader is done with such a document as soon as it has read it (`Reader.run_of_isDelimited`): white space
around it changes nothing, and anything else behind it is a fault of the body as a whole. No body that
holds a document is the beginning of another one, unless only white space is missing
(`holdsAlone_of_decode`).
-/
namespace TicketGrant

namespace Json

open Reader

/-! ### Reading on behind a document -/

/-- A whole value that ends with a mark of its own, a quotation mark or a bracket. -/
def Node.IsDelimited : Node → Prop
  | .text _ => True
  | .list _ ending => ending = .closed
  | .object _ ending => ending = .closed
  | _ => False

theorem Node.IsDelimited.isSound {node : Node} (h : node.IsDelimited) : node.isSound = true := by
  cases node with
  | text => rfl
  | list items ending => exact beq_iff_eq.mpr h
  | object members ending => exact beq_iff_eq.mpr h
  | _ => exact h.elim

section Reading
variable {root : Node} {bytes gap : Bytes} {r : Reader}

theorem Reader.IsStopped.ne_done (h : r.IsStopped) : r ≠ ⟨[], .done root⟩ := by
  obtain ⟨_, rfl, -⟩ := h
  simp

/-- At the end of the input a numeral may turn out to be the root. Any other root was complete
before. -/
theorem Reader.eq_done_of_finish (h : r.finish = ⟨[], .done root⟩) (hroot : root.IsDelimited) :
    r = ⟨[], .done root⟩ := by
  obtain ⟨stack, mode⟩ := r
  cases mode with
  | value | text | word => exact absurd h (isStopped_stopValue _).ne_done
  | firstItem | nextItem | firstName | nextName | separator | name =>
    exact absurd h (isStopped_stopInside (by decide) _).ne_done
  | colon name => exact absurd h (isStopped_stopAfterName _ _).ne_done
  | numeral n =>
    simp only [finish] at h
    split at h
    · rcases stack with _ | ⟨_ | _ | _, stack⟩
      · cases h
        exact hroot.elim
      all_goals exact absurd h (isStopped_stopInside (by decide) _).ne_done
    · exact absurd h (isStopped_stopValue _).ne_done
  | done | trailing | stopped => exact h

/-- The reader is done with a delimited document when it has read it. -/
theorem Reader.run_of_isDelimited (h : Spells (.padded root) bytes) (hroot : root.IsDelimited) :
    Reader.start.run bytes = ⟨[], .done root⟩ := by
  have hbehind : Behind [] root (Reader.start.run bytes) := h.isRead [] _ (waits_value [])
  exact eq_done_of_finish hbehind.finish_eq hroot

theorem Reader.run_trailing (root : Node) (rest : Bytes) :
    (⟨[], .trailing root⟩ : Reader).run rest = ⟨[], .trailing root⟩ := by
  induction rest with
  | nil => rfl
  | cons b rest ih => exact ih

theorem Reader.run_done (root : Node) (rest : Bytes) :
    (⟨[], .done root⟩ : Reader).run rest =
      if rest.all isSpace then ⟨[], .done root⟩ else ⟨[], .trailing root⟩ := by
  induction rest with
  | nil => rfl
  | cons b rest ih =>
    have hstep : (⟨[], .done root⟩ : Reader).step b =
        if isSpace b then ⟨[], .done root⟩ else ⟨[], .trailing root⟩ := rfl
    rw [run_cons, hstep, List.all_cons]
    cases isSpace b with
    | true => exact ih
    | false => exact run_trailing root rest

/-- Behind a delimited document, nothing is read but whether it is white space. -/
theorem read_append (h : Spells (.padded root) bytes) (hroot : root.IsDelimited) (rest : Bytes) :
    read (bytes ++ rest) = ⟨root, rest.all isSpace⟩ := by
  rw [read, run_append, run_of_isDelimited h hroot, run_done]
  cases rest.all isSpace <;> rfl

/-- White space in front of a document is skipped, whatever the document is. -/
theorem read_blank_append (hgap : IsBlank gap) (bytes : Bytes) : read (gap ++ bytes) = read bytes := by
  have hskip : Reader.start.run gap = Reader.start := run_blank (waits_value []).space hgap
  rw [read, run_append, hskip, read]

end Reading

/-! ### Decoders of documents -/

/-- A decoder of documents: it takes delimited values only. -/
def Decoder.Delimits {α : Type} (decoder : Decoder α) : Prop :=
  ∀ node a, decoder node = .ok a → node.IsDelimited

section Delimits
variable {α β : Type}

theorem Decoder.delimits_text : Decoder.text.Delimits := by
  intro node content h
  cases node with
  | text => trivial
  | _ => cases h

theorem Decoder.delimits_list (decoder : Decoder α) : (Decoder.list decoder).Delimits := by
  intro node values h
  cases node with
  | list items ending =>
    rw [Decoder.list] at h
    cases hitems : Decoder.items decoder 0 items with
    | error place => simp [hitems, bind, Except.bind] at h
    | ok found =>
      simp only [hitems, bind, Except.bind] at h
      split at h
      · assumption
      · cases h
  | _ => cases h

theorem Decoder.delimits_map (decoder : Decoder α) : (Decoder.map decoder).Delimits := by
  intro node values h
  cases node with
  | object members ending =>
    rw [Decoder.map] at h
    cases hmembers : Decoder.members decoder members with
    | error place => simp [hmembers, bind, Except.bind] at h
    | ok found =>
      cases ending with
      | closed => rfl
      | _ => simp [hmembers, Decoder.endingFault?, bind, Except.bind] at h
  | _ => cases h

theorem Decoder.delimits_choice (choose : String → Option α) :
    (Decoder.choice choose).Delimits := by
  intro node a h
  unfold Decoder.choice at h
  split at h
  · trivial
  · split at h
    · cases h
    · split at h
      · rename_i hwhole
        exact hwhole.2
      · cases h
    · cases h
  · cases h

/-- A record takes nothing but objects and lists, and only with their brackets. -/
theorem Record.delimits_decode (record : Record α) : record.decode.Delimits := by
  intro node a h
  have hwhole := isSound_of_decode h
  cases node with
  | object | list => exact beq_iff_eq.mp hwhole
  | _ => cases h

/-- What is made of a decoded value does not matter. -/
theorem Decoder.Delimits.comp {decoder : Decoder α} {other : Decoder β} (h : decoder.Delimits)
    (hother : ∀ node b, other node = .ok b → ∃ a, decoder node = .ok a) : other.Delimits := by
  intro node b hb
  obtain ⟨a, ha⟩ := hother node b hb
  exact h node a ha

theorem Decoder.exists_of_map {decoder : Decoder α} {f : α → β} {node : Node} {b : β}
    (h : (decoder node).map f = .ok b) : ∃ a, decoder node = .ok a := by
  cases hnode : decoder node with
  | ok a => exact ⟨a, rfl⟩
  | error place =>
    rw [hnode] at h
    cases h

theorem Decoder.exists_of_filterMap {decoder : Decoder α} {f : α → Option β} {node : Node} {b : β}
    (h : decoder.filterMap f node = .ok b) : ∃ a, decoder node = .ok a := by
  cases hnode : decoder node with
  | ok a => exact ⟨a, rfl⟩
  | error place =>
    rw [Decoder.filterMap_of_error hnode] at h
    cases h

end Delimits
end Json

open Json

/-- What is decoded of bodies: a record (metadata of a server, its tokens, refusals and demands, a
demanded claim, a configuration, or a public key), a list, a table, a scope set, a secret, or how a
client authenticates. -/
inductive IsDocument : {α : Type} → Decoder α → Prop
  | record {α : Type} (record : Record α) : IsDocument record.decode
  | list {α : Type} (decoder : Decoder α) : IsDocument (.list decoder)
  | table {α : Type} (decoder : Decoder α) : IsDocument (.table decoder)
  | scopes : IsDocument ScopeSet.decode
  | secret : IsDocument Secret.decode
  | clientAuth : IsDocument ClientAuth.decode

theorem IsDocument.delimits {α : Type} {decoder : Decoder α} (h : IsDocument decoder) :
    decoder.Delimits := by
  cases h with
  | record record => exact record.delimits_decode
  | list decoder => exact decoder.delimits_list
  | table decoder => exact decoder.delimits_map.comp fun _ _ h => Decoder.exists_of_map h
  | scopes => exact Decoder.delimits_text.comp fun _ _ h => Decoder.exists_of_filterMap h
  | secret => exact Decoder.delimits_text.comp fun _ _ h => Decoder.exists_of_map h
  | clientAuth => exact Decoder.delimits_choice _

/-! ### Bodies -/

/-- A body holds a value, and nothing else. -/
structure HoldsAlone {α : Type} (decoder : Decoder α) (body : Bytes) (a : α) : Prop where
  blankInFront : ∀ gap, IsBlank gap → Codec.plain.decode decoder (gap ++ body) = .ok a
  blankBehind : ∀ gap, IsBlank gap → Codec.plain.decode decoder (body ++ gap) = .ok a
  /-- Anything else behind the value is a fault, and the place of the fault is the root. -/
  trailing : ∀ rest, ¬ IsBlank rest →
    Codec.plain.decode decoder (body ++ rest) = .error (.decoding [])
  /-- A longer body of the same kind holds the same value. -/
  longer : ∀ rest b, Codec.plain.decode decoder (body ++ rest) = .ok b → IsBlank rest ∧ b = a
  /-- A body that lacks more than white space at its end holds no value of any kind. -/
  truncated : ∀ front rest, body = front ++ rest → ¬ IsBlank rest →
    ∀ {β : Type} {other : Decoder β}, IsDocument other →
      ∃ fault, Codec.plain.decode other front = .error fault

section Bodies
variable {α : Type} {decoder : Decoder α} {body : Bytes} {a : α}

/-- A body that holds a value spells a delimited document. -/
theorem IsDocument.exists_spells (hdecoder : IsDocument decoder)
    (h : Codec.plain.decode decoder body = .ok a) :
    ∃ root, Spells (.padded root) body ∧ root.IsDelimited ∧ decoder root = .ok a := by
  have hdelimits := hdecoder.delimits
  have hwhole (node : Node) (a : α) (hnode : decoder node = .ok a) : node.isSound = true :=
    (hdelimits node a hnode).isSound
  obtain ⟨root, hspells, hroot⟩ := (decode_eq_ok_iff hwhole).mp (Codec.plain_decode_eq_ok_iff.mp h)
  exact ⟨root, hspells, hdelimits root a hroot, hroot⟩

theorem IsDocument.decode_append (hdecoder : IsDocument decoder)
    (h : Codec.plain.decode decoder body = .ok a) (rest : Bytes) :
    Codec.plain.decode decoder (body ++ rest) =
      if rest.all Reader.isSpace then .ok a else .error (.decoding []) := by
  obtain ⟨root, hspells, hdelimited, hroot⟩ := hdecoder.exists_spells h
  rw [Codec.plain_decode, Json.decode, read_append hspells hdelimited, hroot]
  cases rest.all Reader.isSpace <;> rfl

/-- Whatever else is looked for in a longer body, only white space may follow. -/
theorem IsDocument.isBlank_of_decode_append {β : Type} {other : Decoder β}
    (hdecoder : IsDocument decoder) (hother : IsDocument other)
    (h : Codec.plain.decode decoder body = .ok a) {rest : Bytes} {b : β}
    (hb : Codec.plain.decode other (body ++ rest) = .ok b) : IsBlank rest := by
  obtain ⟨root, hspells, hdelimited, -⟩ := hdecoder.exists_spells h
  obtain ⟨longer, hlonger, -, -⟩ := hother.exists_spells hb
  have hread := (read_append hspells hdelimited rest).symm.trans (read_of_spells hlonger)
  exact List.all_eq_true.mp (congrArg Document.ended hread)

/-- A body of which a value is decoded holds this value alone. -/
theorem holdsAlone_of_decode (hdecoder : IsDocument decoder)
    (h : Codec.plain.decode decoder body = .ok a) : HoldsAlone decoder body a where
  blankInFront gap hgap := by
    rw [← h, Codec.plain_decode, Codec.plain_decode, Json.decode, Json.decode,
      read_blank_append hgap]
  blankBehind gap hgap := by
    rw [hdecoder.decode_append h, if_pos (List.all_eq_true.mpr hgap)]
  trailing rest hrest := by
    rw [hdecoder.decode_append h, if_neg fun hall => hrest (List.all_eq_true.mp hall)]
  longer rest b hb := by
    have hblank := hdecoder.isBlank_of_decode_append hdecoder h hb
    rw [hdecoder.decode_append h, if_pos (List.all_eq_true.mpr hblank)] at hb
    exact ⟨hblank, (Except.ok.inj hb).symm⟩
  truncated front rest hbody hrest := by
    intro β other hother
    cases hfront : Codec.plain.decode other front with
    | error fault => exact ⟨fault, rfl⟩
    | ok b => exact absurd (hother.isBlank_of_decode_append hdecoder hfront (hbody ▸ h)) hrest

end Bodies

/-- A list with white space around it, which needs its bracket and bears no second one. -/
theorem holdsAlone_of_padded_list :
    HoldsAlone (.list .text) (Utf8.encode " [\"]\"]\n") ["]"] ∧
      Codec.plain.decode (.list .text) (Utf8.encode " [\"]\"]\n]") = .error (.decoding []) ∧
      ∃ fault, Codec.plain.decode Metadata.decode (Utf8.encode " [\"]\"") = .error fault := by
  have halone : HoldsAlone (.list .text) (Utf8.encode " [\"]\"]\n") ["]"] :=
    holdsAlone_of_decode (.list _) (by decide +kernel)
  have hbracket {rest : Bytes} (h : 0x5D ∈ rest) : ¬ IsBlank rest := fun hblank =>
    absurd (hblank 0x5D h) (by decide)
  refine ⟨halone, ?_, ?_⟩
  · have hbody : Utf8.encode " [\"]\"]\n]" = Utf8.encode " [\"]\"]\n" ++ Utf8.encode "]" := by
      decide +kernel
    rw [hbody]
    exact halone.trailing _ (hbracket (by decide +kernel))
  · exact halone.truncated _ (Utf8.encode "]\n") (by decide +kernel)
      (hbracket (by decide +kernel)) (.record Metadata.record)

end TicketGrant
