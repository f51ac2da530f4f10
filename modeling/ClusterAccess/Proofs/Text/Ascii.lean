import ClusterAccess.Text.Utf8
import Mathlib.Data.List.Basic

/-!
# ASCII texts

The bytes of an ASCII text are the codes of its characters (`Bytes.ofText_of_ascii`), and decoding gives the
text back (`Utf8.decode_ofChars`).
-/

namespace ClusterAccess

/-- Each character has a code of seven bits. -/
def IsAscii (cs : List Char) : Prop := ∀ c ∈ cs, c.toNat < 128

instance (cs : List Char) : Decidable (IsAscii cs) := List.decidableBAll _ cs

theorem isAscii_append {cs ds : List Char} : IsAscii (cs ++ ds) ↔ IsAscii cs ∧ IsAscii ds :=
  List.forall_mem_append

namespace Bytes

/-- The codes of characters. -/
def ofChars (cs : List Char) : Bytes := cs.map fun c => UInt8.ofNat c.toNat

theorem ofChars_append (cs ds : List Char) : ofChars (cs ++ ds) = ofChars cs ++ ofChars ds := List.map_append

/-- ASCII characters differ in their codes. -/
theorem code_inj {c d : Char} (hc : c.toNat < 128) (hd : d.toNat < 128) :
    UInt8.ofNat c.toNat = UInt8.ofNat d.toNat ↔ c = d := by
  refine ⟨fun h => ?_, fun h => h ▸ rfl⟩
  have same := congrArg UInt8.toNat h
  rw [UInt8.toNat_ofNat_of_lt' (Nat.lt_trans hc (by decide)),
    UInt8.toNat_ofNat_of_lt' (Nat.lt_trans hd (by decide))] at same
  exact Char.toNat_inj.mp same

theorem mem_ofChars {cs : List Char} (h : IsAscii cs) {c : Char} (hc : c.toNat < 128) :
    UInt8.ofNat c.toNat ∈ ofChars cs ↔ c ∈ cs := by
  constructor
  · intro hm
    obtain ⟨d, hd, code⟩ := List.mem_map.mp hm
    rwa [← (code_inj (h d hd) hc).mp code]
  · exact fun hm => List.mem_map.mpr ⟨c, hm, rfl⟩

theorem toList_loop (b : ByteArray) (i : Nat) (r : List UInt8) :
    ByteArray.toList.loop b i r = r.reverse ++ b.data.toList.drop i := by
  fun_induction ByteArray.toList.loop b i r with
  | case1 i r hi ih =>
    have hi : i < b.data.toList.length := by simpa using hi
    rw [ih, List.drop_eq_getElem_cons hi, List.reverse_cons, List.append_assoc, List.singleton_append]
    congr 2
    change b.data[i]! = _
    rw [getElem!_pos b.data i (by simpa using hi), Array.getElem_toList]
  | case2 i r hi => rw [List.drop_eq_nil_of_le (by simpa using hi), List.append_nil]

theorem ofText_eq_flatMap (s : String) : ofText s = s.toList.flatMap String.utf8EncodeChar := by
  have loop : ofText s = s.toByteArray.data.toList := by
    change ByteArray.toList.loop _ 0 [] = _
    rw [toList_loop]
    rfl
  rw [loop, ← String.utf8Encode_toList, List.utf8Encode, List.toList_data_toByteArray]

theorem ofText_of_ascii {s : String} (h : IsAscii s.toList) : ofText s = ofChars s.toList := by
  rw [ofText_eq_flatMap, ofChars, List.map_eq_flatMap]
  refine List.flatMap_congr fun c hc => ?_
  have code : c.toNat < 128 := h c hc
  have short : c.utf8Size = 1 :=
    Char.utf8Size_eq_one_iff.mpr (UInt32.le_iff_toNat_le.mpr (Nat.le_of_lt_succ code))
  rw [String.utf8EncodeChar_eq_singleton short]
  rfl

end Bytes

namespace Utf8

theorem decodeFrom_ofChars {cs : List Char} (h : IsAscii cs) (pos : Nat) :
    decodeFrom pos none (Bytes.ofChars cs) = .ok cs := by
  induction cs generalizing pos with
  | nil => rfl
  | cons c cs ih =>
    obtain ⟨hc, hcs⟩ := List.forall_mem_cons.mp h
    have code : (UInt8.ofNat c.toNat).toNat = c.toNat :=
      UInt8.toNat_ofNat_of_lt' (Nat.lt_trans hc (by decide))
    have step : decodeFrom (pos + 1) none (Bytes.ofChars cs) = .ok cs := ih hcs (pos + 1)
    change decodeFrom pos none (UInt8.ofNat c.toNat :: Bytes.ofChars cs) = _
    rw [decodeFrom, code, if_pos hc, step, Char.ofNat_toNat]
    rfl

theorem decode_ofChars {cs : List Char} (h : IsAscii cs) :
    decode (Bytes.ofChars cs) = .ok (String.ofList cs) := by
  rw [decode, decodeFrom_ofChars h]
  rfl

end Utf8

end ClusterAccess
