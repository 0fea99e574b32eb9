import Interlock.Menu.Card
import Interlock.Proofs.Menu.Path
import Interlock.Proofs.Text.Bytes

namespace Interlock.Menu

open Interlock.Text

/-- A name has an extension exactly if it ends in it, in letters of any case,
    behind something else. -/
theorem hasExtension_iff {extension name : String} :
    hasExtension extension name = true ↔ ∃ stem ending, stem ≠ [] ∧
      name.toList = stem ++ ending ∧ ending.map Char.toLower = extension.toList := by
  unfold hasExtension
  dsimp only
  rw [Bool.and_eq_true, decide_eq_true_iff, beq_iff_eq]
  constructor
  · rintro ⟨hkeep, hends⟩
    refine ⟨_, _, ?_, (List.take_append_drop _ name.toList).symm, hends⟩
    rw [← List.length_pos_iff, List.length_take]
    omega
  · rintro ⟨stem, ending, hstem, hname, hends⟩
    have hlength : ending.length = extension.toList.length := by rw [← hends, List.length_map]
    have hkeep : name.toList.length - extension.toList.length = stem.length := by
      rw [hname, List.length_append, hlength, Nat.add_sub_cancel]
    rw [hkeep, hname, List.drop_left]
    exact ⟨List.length_pos_iff.2 hstem, hends⟩

/-- What stands before does not matter, and so a name that follows a directory
    keeps its extension. -/
theorem hasExtension_joinPath {extension name : String}
    (hname : hasExtension extension name = true) (dir : String) :
    hasExtension extension (joinPath dir name) = true := by
  obtain ⟨stem, ending, hstem, hsplit, hends⟩ := hasExtension_iff.1 hname
  refine hasExtension_iff.2 ⟨(joinPath dir "").toList ++ stem, ending, ?_, ?_, hends⟩
  · exact List.append_ne_nil_of_right_ne_nil _ hstem
  · rw [toList_joinPath, hsplit, List.append_assoc]

/-- The name of a job file is not blank, since its extension is not. -/
theorem exists_not_blank_of_isJobName {path : String} (hjob : isJobName path = true) :
    ∃ c ∈ path.toList, isBlank c = false := by
  obtain ⟨stem, ending, _, hsplit, hends⟩ := hasExtension_iff.1 hjob
  obtain ⟨point, rest, rfl, hpoint, _⟩ := List.map_eq_cons_iff.1 hends
  refine ⟨point, by simp [hsplit], ?_⟩
  rw [← isBlank_toLower, hpoint]
  rfl

/-- A file that can be chosen while browsing is a job file. Directories can be
    chosen too, whatever they are called. -/
theorem isJobName_of_accepts {entry : CardEntry} (haccepted : EntryFilter.jobs.accepts entry = true)
    (hfile : entry.isDirectory = false) : isJobName entry.name = true := by
  unfold EntryFilter.accepts at haccepted
  rw [hfile] at haccepted
  split at haccepted
  · cases haccepted
  · exact haccepted

/-- The bytes of a name end in those of an extension, in letters of any case,
    and there are others before them. -/
def EndsIn (extension name : String) : Prop :=
  ∃ stem ending, stem ≠ [] ∧ Utf8.encode name = stem ++ ending ∧
    ending.map lowerByte = Utf8.encode extension

/-- The bytes of a name tell whether it has an extension of ASCII characters. No
    byte of a longer encoding could be taken for one of the extension, and
    folding letters does not change that. -/
theorem hasExtension_iff_endsIn {extension name : String}
    (hextension : ∀ c ∈ extension.toList, c.toNat < 128) :
    hasExtension extension name = true ↔ EndsIn extension name := by
  have hbytes : Utf8.encode extension = extension.toList.map Char.toUInt8 := by
    rw [encode_eq_flatMap, flatMap_utf8EncodeChar hextension]
  rw [hasExtension_iff, EndsIn, hbytes, encode_eq_flatMap]
  constructor
  · rintro ⟨stem, ending, hstem, hname, hends⟩
    have hascii : ∀ c ∈ ending, c.toNat < 128 := by
      intro c hc
      refine toLower_ascii_iff.1 (hextension _ ?_)
      rw [← hends]
      exact List.mem_map_of_mem hc
    refine ⟨stem.flatMap String.utf8EncodeChar, ending.map Char.toUInt8, ?_, ?_, ?_⟩
    · obtain ⟨c, rest, rfl⟩ := List.exists_cons_of_ne_nil hstem
      simp
    · rw [hname, List.flatMap_append, flatMap_utf8EncodeChar hascii]
    · rw [← map_toLower_toUInt8 hascii, hends]
  · rintro ⟨stem, ending, hstem, hname, hends⟩
    have hascii : ∀ b ∈ ending, b.toNat < 128 := by
      intro b hb
      have hlower : lowerByte b ∈ extension.toList.map Char.toUInt8 := by
        rw [← hends]
        exact List.mem_map_of_mem hb
      obtain ⟨c, hc, hsame⟩ := List.mem_map.1 hlower
      refine ascii_of_lowerByte ?_
      rw [← hsame, toNat_toUInt8 (hextension c hc)]
      exact hextension c hc
    obtain ⟨first, last, hsplit, hfirst, hlast, hplain⟩ := exists_ascii_ending hname hascii
    refine ⟨first, last, ?_, hsplit, ?_⟩
    · rintro rfl
      exact hstem hfirst.symm
    · have hlower : ∀ c ∈ last.map Char.toLower, c.toNat < 128 :=
        List.forall_mem_map.2 fun c hc => toLower_ascii_iff.2 (hplain c hc)
      refine map_toUInt8_inj hlower hextension ?_
      rw [map_toLower_toUInt8 hplain, hlast, hends]

theorem isJobName_iff_endsIn {path : String} :
    isJobName path = true ↔ EndsIn EntryFilter.jobs.extension path :=
  hasExtension_iff_endsIn (by simp [EntryFilter.extension])

end Interlock.Menu
