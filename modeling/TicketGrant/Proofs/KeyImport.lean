import Mathlib.Data.Nat.Digits.Lemmas
import TicketGrant.Proofs.SignedProofs

/-!
# Imported keys

A private key is imported from its 32 bytes, or from the last of them where up to eight zeros in front
are left out. Nothing else is imported: the bytes are 24 to 32, and the number that they make is not
zero and below the order. The key is this number, so what is imported is told by the bytes with their
zeros: bytes of one length that differ have private keys that differ, and public ones (`keys_of_bytes`).
-/
namespace TicketGrant

namespace P256

/-! ### Numbers of bytes -/

/-- Bytes as a number, in the usual sense. -/
theorem ofBytes_eq_ofDigits (bytes : Bytes) :
    ofBytes bytes = Nat.ofDigits 256 (bytes.reverse.map UInt8.toNat) := by
  rw [ofBytes, Nat.ofDigits_eq_foldr, List.foldr_map, List.foldr_reverse]
  congr 1
  funext n byte
  simp only [Nat.cast_id]
  omega

theorem lt_of_mem_map_toNat {bytes : Bytes} {n : Nat} (h : n ∈ bytes.map UInt8.toNat) : n < 256 := by
  obtain ⟨byte, -, rfl⟩ := List.mem_map.mp h
  exact byte.toNat_lt

theorem ofBytes_lt (bytes : Bytes) : ofBytes bytes < 256 ^ bytes.length := by
  have hlength : (bytes.reverse.map UInt8.toNat).length = bytes.length := by
    rw [List.length_map, List.length_reverse]
  rw [ofBytes_eq_ofDigits, ← hlength]
  exact Nat.ofDigits_lt_base_pow_length (by decide) fun _ => lt_of_mem_map_toNat

/-- Bytes of one length are told by their number. -/
theorem eq_of_ofBytes {a b : Bytes} (hlength : a.length = b.length) (h : ofBytes a = ofBytes b) :
    a = b := by
  rw [ofBytes_eq_ofDigits, ofBytes_eq_ofDigits] at h
  have hdigits := Nat.ofDigits_inj_of_len_eq (by decide) (by simpa using hlength)
    (fun _ => lt_of_mem_map_toNat) (fun _ => lt_of_mem_map_toNat) h
  exact List.reverse_injective (List.map_injective_iff.mpr (fun _ _ => UInt8.toNat_inj.mp) hdigits)

/-- 32 bytes: those that are given, behind zeros. -/
def filled (bytes : Bytes) : Bytes := List.replicate (32 - bytes.length) 0 ++ bytes

theorem length_filled {bytes : Bytes} (h : bytes.length ≤ 32) : (filled bytes).length = 32 := by
  rw [filled, List.length_append, List.length_replicate]
  omega

theorem ofBytes_filled (bytes : Bytes) : ofBytes (filled bytes) = ofBytes bytes := by
  have hzero : UInt8.toNat 0 = 0 := rfl
  rw [ofBytes_eq_ofDigits, filled, List.reverse_append, List.map_append, List.reverse_replicate,
    List.map_replicate, hzero, Nat.ofDigits_append_replicate_zero, ← ofBytes_eq_ofDigits]

/-- The number of up to 32 bytes is written as these bytes behind zeros. -/
theorem toBytes_ofBytes {bytes : Bytes} (h : bytes.length ≤ 32) :
    toBytes (ofBytes bytes) = filled bytes := by
  have hsize : (256 : Nat) ^ 32 = 2 ^ 256 := by norm_num
  have hlt : ofBytes (filled bytes) < 2 ^ 256 := by
    rw [← hsize, ← length_filled h]
    exact ofBytes_lt _
  refine eq_of_ofBytes (by rw [length_toBytes, length_filled h]) ?_
  rw [← ofBytes_filled bytes, ofBytes_toBytes hlt]

/-- Up to 32 bytes are told by their number, but for the zeros in front. -/
theorem filled_eq_filled_iff {a b : Bytes} (ha : a.length ≤ 32) (hb : b.length ≤ 32) :
    filled a = filled b ↔ ofBytes a = ofBytes b := by
  constructor
  · intro h
    rw [← ofBytes_filled a, h, ofBytes_filled]
  · intro h
    rw [← toBytes_ofBytes ha, h, toBytes_ofBytes hb]

/-! ### Keys -/

theorem coordinates?_injective : Function.Injective coordinates? := by
  rintro (_ | ⟨x, y, hxy⟩) (_ | ⟨x', y', hxy'⟩) h
  · rfl
  · cases h
  · cases h
  · simp only [coordinates?, Option.some.injEq, Prod.mk.injEq] at h
    obtain rfl : x = x' := ZMod.val_injective _ h.1
    obtain rfl : y = y' := ZMod.val_injective _ h.2
    rfl

namespace PrivateKey

theorem ext_scalar {key other : PrivateKey} (h : key.scalar = other.scalar) : key = other := by
  cases key
  cases other
  cases h
  rfl

theorem ofNat?_eq_some_iff {n : Nat} {key : PrivateKey} : ofNat? n = some key ↔ key.scalar = n := by
  constructor
  · intro h
    rw [ofNat?] at h
    split at h
    · cases h
      rfl
    · cases h
  · rintro rfl
    rw [ofNat?, dif_pos ⟨key.pos, key.lt_order⟩]

theorem ofBytes?_eq_some_iff {bytes : Bytes} {key : PrivateKey} :
    ofBytes? bytes = some key ↔
      (24 ≤ bytes.length ∧ bytes.length ≤ 32) ∧ key.scalar = P256.ofBytes bytes := by
  rw [ofBytes?, Option.ite_none_right_eq_some, ofNat?_eq_some_iff]

/-- Private keys are told by their public points. -/
theorem publicPoint?_injective : Function.Injective publicPoint? := by
  intro key other h
  simp only [publicPoint?, affine?_multiply] at h
  have hmod := nsmul_eq_nsmul_iff_modEq.mp (coordinates?_injective h)
  rw [addOrderOf_generator] at hmod
  exact ext_scalar (hmod.eq_of_lt_of_lt key.lt_order other.lt_order)

end PrivateKey
end P256

namespace Binding

open P256

/-- The bytes of a private key: 32, of which up to eight zeros in front may be left out. -/
structure IsKey (bytes : Bytes) : Prop where
  le_length : 24 ≤ bytes.length
  length_le : bytes.length ≤ 32
  pos : 1 ≤ Nat.ofDigits 256 (bytes.reverse.map UInt8.toNat)
  lt_order : Nat.ofDigits 256 (bytes.reverse.map UInt8.toNat) < order

namespace Signer

/-- Private keys are told by their public keys. -/
theorem eq_of_publicJwk? {key other : PrivateKey}
    (h : publicJwk? ⟨some key⟩ = publicJwk? ⟨some other⟩) : key = other := by
  have hsome : (publicJwk? ⟨some key⟩).isSome = true := isSome_publicJwk? ⟨some key⟩
  obtain ⟨jwk, hjwk⟩ := Option.isSome_iff_exists.mp hsome
  obtain ⟨x, y, hpublic, hpoint⟩ := exists_publicPoint rfl hjwk
  obtain ⟨x', y', hpublic', hpoint'⟩ := exists_publicPoint rfl (h ▸ hjwk)
  refine PrivateKey.publicPoint?_injective ?_
  rw [hpublic, hpublic', ← hpoint, ← hpoint']

variable {bytes : Bytes} {signer : Signer}

/-- A signer that is imported has the key of the number of its bytes. -/
theorem ofBytes_eq_ok_iff :
    ofBytes bytes = .ok signer ↔ (24 ≤ bytes.length ∧ bytes.length ≤ 32) ∧
      ∃ key, signer = ⟨some key⟩ ∧ key.scalar = P256.ofBytes bytes := by
  have hsigner : ofBytes bytes = .ok signer ↔
      ∃ key, signer = ⟨some key⟩ ∧ PrivateKey.ofBytes? bytes = some key := by
    rw [ofBytes]
    cases PrivateKey.ofBytes? bytes with
    | none => simp
    | some key => simp [eq_comm]
  simp only [hsigner, PrivateKey.ofBytes?_eq_some_iff]
  constructor
  · rintro ⟨key, hkey, hlength, hscalar⟩
    exact ⟨hlength, key, hkey, hscalar⟩
  · rintro ⟨hlength, key, hkey, hscalar⟩
    exact ⟨key, hkey, hlength, hscalar⟩

theorem isOk_iff_isKey : (∃ signer, ofBytes bytes = .ok signer) ↔ IsKey bytes := by
  simp only [ofBytes_eq_ok_iff]
  constructor
  · rintro ⟨-, ⟨hle, hge⟩, key, -, hscalar⟩
    have hpos := key.pos
    have hlt := key.lt_order
    rw [hscalar, ofBytes_eq_ofDigits] at hpos hlt
    exact ⟨hle, hge, hpos, hlt⟩
  · rintro ⟨hle, hge, hpos, hlt⟩
    rw [← ofBytes_eq_ofDigits] at hpos hlt
    exact ⟨_, ⟨hle, hge⟩, ⟨_, hpos, hlt⟩, rfl, rfl⟩

/-- The signers of two imports are told apart by their bytes, filled with zeros in front. -/
structure ToldBy (a b : Bytes) (s t : Signer) : Prop where
  key : s.key = t.key ↔ filled a = filled b
  publicKey : s.publicJwk? = t.publicJwk? ↔ filled a = filled b
  sameLength : a.length = b.length → s.key = t.key → a = b

theorem toldBy_of_imports {a b : Bytes} {s t : Signer} (ha : ofBytes a = .ok s)
    (hb : ofBytes b = .ok t) : ToldBy a b s t := by
  obtain ⟨⟨-, hwidth⟩, key, rfl, hscalar⟩ := ofBytes_eq_ok_iff.mp ha
  obtain ⟨⟨-, hwidth'⟩, key', rfl, hscalar'⟩ := ofBytes_eq_ok_iff.mp hb
  have hkeys : key = key' ↔ P256.ofBytes a = P256.ofBytes b := by
    rw [← hscalar, ← hscalar']
    exact ⟨congrArg _, PrivateKey.ext_scalar⟩
  have hfilled : key = key' ↔ filled a = filled b := by
    rw [hkeys, filled_eq_filled_iff hwidth hwidth']
  refine ⟨Option.some_inj.trans hfilled, ⟨fun h => hfilled.mp (eq_of_publicJwk? h), fun h => ?_⟩,
    fun hlength h => eq_of_ofBytes hlength (hkeys.mp (Option.some.inj h))⟩
  rw [hfilled.mpr h]

/-- Bytes are imported exactly if they are those of a private key. The key is their number, and is
written as these bytes, filled with zeros in front; so two imports have the same key, private or
public, exactly if their bytes do not differ in more than such zeros. -/
theorem keys_of_bytes (bytes : Bytes) :
    ((∃ signer, ofBytes bytes = .ok signer) ↔ IsKey bytes) ∧
    (¬ IsKey bytes → ofBytes bytes = .error .invalidKey) ∧
    ∀ signer, ofBytes bytes = .ok signer →
      (∃ key, signer.key = some key ∧
        key.scalar = Nat.ofDigits 256 (bytes.reverse.map UInt8.toNat) ∧
        toBytes key.scalar = filled bytes) ∧
      ∀ other signer', ofBytes other = .ok signer' → ToldBy bytes other signer signer' := by
  refine ⟨isOk_iff_isKey, fun hnot => ?_, fun signer hsigner => ⟨?_, fun other signer' hother =>
    toldBy_of_imports hsigner hother⟩⟩
  · rw [← isOk_iff_isKey] at hnot
    rw [ofBytes] at hnot ⊢
    cases hkey : PrivateKey.ofBytes? bytes with
    | none => rfl
    | some key => simp [hkey] at hnot
  · obtain ⟨⟨-, hwidth⟩, key, rfl, hscalar⟩ := ofBytes_eq_ok_iff.mp hsigner
    refine ⟨key, rfl, ?_, ?_⟩
    · rw [hscalar, ofBytes_eq_ofDigits]
    · rw [hscalar, toBytes_ofBytes hwidth]

/-- 31 bytes are imported, as the key that they are behind a zero. -/
theorem key_of_truncated :
    let bytes := List.replicate 31 7
    bytes.length ≠ 32 ∧ ∃ signer, ofBytes bytes = .ok signer ∧ ofBytes (0 :: bytes) = .ok signer := by
  intro bytes
  have hkey : (PrivateKey.ofBytes? bytes).isSome = true := by decide +kernel
  obtain ⟨key, hkey⟩ := Option.isSome_iff_exists.mp hkey
  have hzero : PrivateKey.ofBytes? (0 :: bytes) = PrivateKey.ofBytes? bytes := by decide +kernel
  refine ⟨by decide, ⟨some key⟩, ?_, ?_⟩
  · rw [ofBytes, hkey]
  · rw [ofBytes, hzero, hkey]

end Signer
end Binding
end TicketGrant
