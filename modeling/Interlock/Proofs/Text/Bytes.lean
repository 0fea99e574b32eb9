import Interlock.Proofs.Text.Blank
import Interlock.Text.Utf8
import Mathlib.Data.List.Induction

namespace Interlock.Text

/-- The loop that lists bytes adds those from an index on to the ones it has
    read. -/
theorem toList_loop_eq (bytes : ByteArray) (i : Nat) (read : List UInt8) :
    ByteArray.toList.loop bytes i read = read.reverse ++ bytes.data.toList.drop i := by
  -- The induction is on the bytes that are left.
  induction hleft : bytes.size - i generalizing i read with
  | zero =>
    have hend : bytes.size ≤ i := Nat.le_of_sub_eq_zero hleft
    have hnone : bytes.data.toList.drop i = [] := List.drop_eq_nil_of_le hend
    rw [ByteArray.toList.loop, if_neg (Nat.not_lt.2 hend), hnone, List.append_nil]
  | succ left ih =>
    have hplace : i < bytes.size := Nat.lt_of_sub_eq_succ hleft
    have hbyte : bytes.data.toList.drop i = bytes.get! i :: bytes.data.toList.drop (i + 1) := by
      rw [List.drop_eq_getElem_cons hplace]
      exact congrArg (· :: _) (getElem!_pos bytes.data i hplace).symm
    rw [ByteArray.toList.loop, if_pos hplace, ih (i + 1) _ (by omega), hbyte]
    simp

/-- A text is encoded character by character. -/
theorem encode_eq_flatMap (text : String) :
    Utf8.encode text = text.toList.flatMap String.utf8EncodeChar := by
  have hdata : Utf8.encode text = text.toByteArray.data.toList := by
    rw [Utf8.encode, ByteArray.toList, toList_loop_eq]
    rfl
  rw [hdata, ← String.utf8Encode_toList]
  exact List.toList_data_toByteArray

theorem utf8EncodeChar_of_ascii {c : Char} (hascii : c.toNat < 128) :
    String.utf8EncodeChar c = [c.toUInt8] := by
  unfold String.utf8EncodeChar
  exact if_pos (Nat.le_of_lt_succ hascii)

/-- The encoding of another character does not end in an ASCII byte. -/
theorem utf8EncodeChar_of_not_ascii {c : Char} (hother : 128 ≤ c.toNat) :
    ∃ before b, String.utf8EncodeChar c = before ++ [b] ∧ 128 ≤ b.toNat := by
  have hlast : 128 ≤ (UInt8.ofNat (c.val.toNat % 64 + 128)).toNat := by
    rw [UInt8.toNat_ofNat', Nat.mod_eq_of_lt (by omega)]
    omega
  have hlong : ¬c.val.toNat ≤ 127 := Nat.not_le.2 hother
  unfold String.utf8EncodeChar
  dsimp only
  rw [if_neg hlong]
  split_ifs
  · exact ⟨[_], _, rfl, hlast⟩
  · exact ⟨[_, _], _, rfl, hlast⟩
  · exact ⟨[_, _, _], _, rfl, hlast⟩

theorem flatMap_utf8EncodeChar {cs : List Char} (hascii : ∀ c ∈ cs, c.toNat < 128) :
    cs.flatMap String.utf8EncodeChar = cs.map Char.toUInt8 := by
  rw [List.map_eq_flatMap]
  exact List.flatMap_congr fun c hc => utf8EncodeChar_of_ascii (hascii c hc)

/-- ASCII bytes at the end of an encoded text are the last characters of the
    text, because no such byte is a part of another character. The induction is
    on the characters from the end. -/
theorem exists_ascii_ending {cs : List Char} {stem ending : List UInt8}
    (hsplit : cs.flatMap String.utf8EncodeChar = stem ++ ending)
    (hascii : ∀ b ∈ ending, b.toNat < 128) :
    ∃ first last, cs = first ++ last ∧ first.flatMap String.utf8EncodeChar = stem ∧
      last.map Char.toUInt8 = ending ∧ ∀ c ∈ last, c.toNat < 128 := by
  -- The bytes are taken off one by one from the end, and each takes a character with it.
  induction ending using List.reverseRecOn generalizing cs with
  | nil => exact ⟨cs, [], by simp, by simpa using hsplit, rfl, by simp⟩
  | append_singleton ending b ih =>
    obtain ⟨hrest, hb⟩ := List.forall_mem_append.1 hascii
    rw [← List.append_assoc] at hsplit
    rcases cs.eq_nil_or_concat' with rfl | ⟨cs, c, rfl⟩
    · simp at hsplit
    rw [List.flatMap_append, List.flatMap_singleton] at hsplit
    rcases Nat.lt_or_ge c.toNat 128 with hc | hc
    · rw [utf8EncodeChar_of_ascii hc] at hsplit
      obtain ⟨hbefore, hlast⟩ := List.append_inj' hsplit rfl
      obtain rfl := List.singleton_inj.1 hlast
      obtain ⟨first, last, rfl, hstem, rfl, hplain⟩ := ih hbefore hrest
      refine ⟨first, last ++ [c], by simp, hstem, by simp, ?_⟩
      exact List.forall_mem_append.2 ⟨hplain, by simpa using hc⟩
    · obtain ⟨before, d, hmore, hd⟩ := utf8EncodeChar_of_not_ascii hc
      rw [hmore, ← List.append_assoc] at hsplit
      obtain ⟨-, hlast⟩ := List.append_inj' hsplit rfl
      obtain rfl := List.singleton_inj.1 hlast
      exact absurd (hb d (by simp)) (Nat.not_lt.2 hd)

theorem toNat_toUInt8 {c : Char} (hascii : c.toNat < 128) : c.toUInt8.toNat = c.toNat := by
  have hbyte : c.toUInt8.toNat = c.toNat % 256 := UInt32.toNat_toUInt8 c.val
  omega

/-- ASCII texts with the same bytes are the same. -/
theorem map_toUInt8_inj {cs ds : List Char} (hcs : ∀ c ∈ cs, c.toNat < 128)
    (hds : ∀ d ∈ ds, d.toNat < 128) (hbytes : cs.map Char.toUInt8 = ds.map Char.toUInt8) :
    cs = ds := by
  have hread {es : List Char} (hes : ∀ e ∈ es, e.toNat < 128) :
      (es.map Char.toUInt8).map (fun b => Char.ofNat b.toNat) = es := by
    rw [List.map_map, List.map_congr_left (g := id), List.map_id]
    intro e he
    rw [Function.comp_apply, toNat_toUInt8 (hes e he), Char.ofNat_toNat, id_eq]
  rw [← hread hcs, hbytes, hread hds]

/-- The bytes of the letters `A` to `Z` become those of small ones. -/
def lowerByte (b : UInt8) : UInt8 :=
  if 65 ≤ b ∧ b ≤ 90 then b + 32 else b

theorem toUInt8_toLower {c : Char} (hascii : c.toNat < 128) :
    c.toLower.toUInt8 = lowerByte c.toUInt8 := by
  have hall : ∀ n < 128, (Char.ofNat n).toLower.toUInt8 = lowerByte (Char.ofNat n).toUInt8 := by
    decide
  simpa using hall c.toNat hascii

theorem map_toLower_toUInt8 {cs : List Char} (hascii : ∀ c ∈ cs, c.toNat < 128) :
    (cs.map Char.toLower).map Char.toUInt8 = (cs.map Char.toUInt8).map lowerByte := by
  rw [List.map_map, List.map_map]
  exact List.map_congr_left fun c hc => toUInt8_toLower (hascii c hc)

theorem toLower_ascii_iff {c : Char} : c.toLower.toNat < 128 ↔ c.toNat < 128 := by
  rcases toLower_cases c with hsame | ⟨_, hhigh, hlower⟩
  · rw [hsame]
  · omega

/-- Bytes that are ASCII in lower case were so before. -/
theorem ascii_of_lowerByte {b : UInt8} (hlower : (lowerByte b).toNat < 128) : b.toNat < 128 := by
  unfold lowerByte at hlower
  split_ifs at hlower with hletter
  · have hhigh : b.toNat ≤ 90 := UInt8.le_iff_toNat_le.1 hletter.2
    omega
  · exact hlower

end Interlock.Text
