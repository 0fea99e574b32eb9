import Interlock.Menu.Path
import Mathlib.Data.List.DropRight
import Mathlib.Data.List.Infix

namespace Interlock.Menu

/-- A path does not end in a slash, unless it is the top. Directories are named
    this way. -/
def Trimmed (path : String) : Prop :=
  path.toList.getLast? = some '/' → path = "/"

instance (path : String) : Decidable (Trimmed path) :=
  inferInstanceAs (Decidable (_ → _))

/-- Trimming drops slashes from the end and nothing else, and leaves something
    of every path that is not empty. -/
structure TrimsTo (path dir : String) : Prop where
  trimmed : Trimmed dir
  dropped : ∃ slashes, path.toList = dir.toList ++ slashes ∧ ∀ c ∈ slashes, c = '/'
  eq_empty : dir = "" → path = ""

/-- Of slashes alone the first one is left, which is the top. Every other path
    keeps its last character that is not a slash, and all before it. -/
theorem trimsTo_trimDir (path : String) : TrimsTo path (trimDir path) := by
  have hsplit : path.toList.rdropWhile (· == '/') ++ path.toList.rtakeWhile (· == '/') =
      path.toList := List.rdropWhile_append_rtakeWhile
  have hslashes : ∀ c ∈ path.toList.rtakeWhile (· == '/'), c = '/' := by
    intro c hc
    simpa using List.mem_rtakeWhile_imp hc
  by_cases hall : path.toList.rdropWhile (· == '/') = []
  · -- There is nothing but slashes, and the first of them stays.
    rw [hall, List.nil_append] at hsplit
    rw [hsplit] at hslashes
    have htrim : (trimDir path).toList = path.toList.take 1 := by
      rw [trimDir, trimDirChars, ← List.rdropWhile, hall, String.toList_ofList]
      rfl
    cases hpath : path.toList with
    | nil =>
      obtain rfl : path = "" := String.toList_eq_nil_iff.1 hpath
      exact ⟨fun hends => by simp [htrim, hpath] at hends, ⟨[], by simp [htrim, hpath], by simp⟩,
        fun _ => rfl⟩
    | cons c slashes =>
      rw [hpath] at hslashes htrim
      obtain ⟨rfl, hrest⟩ := List.forall_mem_cons.1 hslashes
      have htop : trimDir path = "/" := String.toList_inj.1 htrim
      rw [htop]
      exact ⟨fun _ => rfl, ⟨slashes, hpath, hrest⟩, nofun⟩
  · have htrim : (trimDir path).toList = path.toList.rdropWhile (· == '/') := by
      rw [trimDir, trimDirChars, ← List.rdropWhile, String.toList_ofList]
      exact if_neg (by simpa using hall)
    rw [← htrim] at hsplit
    refine ⟨fun hends => ?_, ⟨_, hsplit.symm, hslashes⟩, fun hempty => ?_⟩
    · rw [htrim, List.getLast?_eq_some_getLast hall, Option.some.injEq] at hends
      exact absurd (beq_iff_eq.2 hends) (List.rdropWhile_last_not _ _ hall)
    · rw [hempty] at htrim
      exact absurd htrim.symm hall

theorem trimmed_trimDir (path : String) : Trimmed (trimDir path) :=
  (trimsTo_trimDir path).trimmed

/-- Only the path without a name trims to nothing. -/
theorem trimDir_ne {path : String} (hne : path ≠ "") : trimDir path ≠ "" :=
  fun hempty => hne ((trimsTo_trimDir path).eq_empty hempty)

/-- What trimming leaves is a start of the path, as it only drops from the end. -/
theorem trimDir_isPrefix (path : String) : (trimDir path).toList <+: path.toList := by
  obtain ⟨slashes, hpath, _⟩ := (trimsTo_trimDir path).dropped
  exact ⟨slashes, hpath.symm⟩

/-- Nothing is trimmed off a start of the path that is trimmed itself: such a
    start ends before the slashes that are dropped, or it is the top, which is
    left of slashes alone. -/
theorem prefix_trimDir_iff {start path : String} (hstart : Trimmed start) :
    start.toList <+: (trimDir path).toList ↔ start.toList <+: path.toList := by
  refine ⟨fun hstarts => hstarts.trans (trimDir_isPrefix path), fun hstarts => ?_⟩
  rcases List.prefix_or_prefix_of_prefix hstarts (trimDir_isPrefix path) with hkept | ⟨more, hmore⟩
  · exact hkept
  obtain ⟨_, ⟨slashes, hpath, hslashes⟩, hempty⟩ := trimsTo_trimDir path
  rw [hpath, ← hmore, List.prefix_append_right_inj] at hstarts
  rcases List.eq_nil_or_concat more with rfl | ⟨others, c, rfl⟩
  · rw [← hmore, List.append_nil]
  · -- A start that ends in a slash is the top, and something of it stays.
    obtain rfl := hslashes c (hstarts.subset (by simp))
    have htop : start = "/" := hstart (by simp [← hmore])
    have hlength := congrArg List.length hmore
    rw [htop, List.length_append, List.length_concat] at hlength
    have hnone : trimDir path = "" := by
      rw [← String.toList_eq_nil_iff, ← List.length_eq_zero_iff]
      exact Nat.eq_zero_of_add_eq_zero_right (Nat.succ.inj hlength)
    rw [hnone, hempty hnone] at hpath
    obtain rfl : [] = slashes := hpath
    simp at hstarts

theorem prefix_trimDir_of_not_ends {path : String} {start : List Char}
    (hends : start.getLast? ≠ some '/') (hstarts : start <+: path.toList) :
    start <+: (trimDir path).toList := by
  have hstart : Trimmed (String.ofList start) := fun hslash =>
    absurd (by simpa using hslash) hends
  simpa using (prefix_trimDir_iff hstart).2 (by simpa using hstarts)

theorem trimDir_of_trimmed {path : String} (htrimmed : Trimmed path) : trimDir path = path := by
  have hstarts : path.toList <+: (trimDir path).toList :=
    (prefix_trimDir_iff htrimmed).2 List.prefix_rfl
  exact String.toList_inj.1 ((trimDir_isPrefix path).eq_of_length_le hstarts.length_le)

/-- Two paths differ in nothing but the number of slashes at their ends, and
    only both can be empty. -/
structure Respells (path other : String) : Prop where
  stem : ∃ stem more others, path.toList = stem ++ List.replicate more '/' ∧
    other.toList = stem ++ List.replicate others '/'
  empty_iff : path = "" ↔ other = ""

/-- However many slashes follow, the same is left when those at the end are
    dropped. -/
theorem dropWhile_reverse_append_slashes (stem : List Char) (more : Nat) :
    (stem ++ List.replicate more '/').reverse.dropWhile (· == '/') =
      stem.reverse.dropWhile (· == '/') := by
  rw [List.reverse_append, List.reverse_replicate, List.dropWhile_append_of_pos]
  intro c hc
  exact beq_iff_eq.2 (List.eq_of_mem_replicate hc)

theorem take_one_slashes {path : List Char} (hslashes : ∀ c ∈ path, c = '/') (hne : path ≠ []) :
    path.take 1 = ['/'] := by
  obtain ⟨c, rest, rfl⟩ := List.exists_cons_of_ne_nil hne
  rw [hslashes c List.mem_cons_self]
  rfl

/-- Trimming makes the same of two paths exactly if they are spellings of one. -/
theorem trimDir_eq_iff {path other : String} :
    trimDir path = trimDir other ↔ Respells path other := by
  constructor
  · intro hsame
    obtain ⟨_, ⟨slashes, hpath, hslashes⟩, hempty⟩ := trimsTo_trimDir path
    obtain ⟨_, ⟨slashes', hother, hslashes'⟩, hempty'⟩ := trimsTo_trimDir other
    refine ⟨⟨(trimDir path).toList, slashes.length, slashes'.length, ?_, ?_⟩, ?_, ?_⟩
    · rwa [← List.eq_replicate_of_mem hslashes]
    · rwa [← List.eq_replicate_of_mem hslashes', hsame]
    · rintro rfl
      exact hempty' (hsame.symm.trans (by decide))
    · rintro rfl
      exact hempty (hsame.trans (by decide))
  · rintro ⟨⟨stem, more, others, hpath, hother⟩, hempty⟩
    have htrimmed : path.toList.reverse.dropWhile (· == '/') =
        other.toList.reverse.dropWhile (· == '/') := by
      rw [hpath, hother, dropWhile_reverse_append_slashes, dropWhile_reverse_append_slashes]
    rw [trimDir, trimDir, trimDirChars, trimDirChars, htrimmed]
    split
    · rename_i hall
      -- There is nothing but slashes, and so only their number can make a difference.
      have hnone : other.toList.reverse.dropWhile (· == '/') = [] := by simpa using hall
      have hslashes {p : String} (hp : p.toList.reverse.dropWhile (· == '/') = []) :
          ∀ c ∈ p.toList, c = '/' := by simpa using hp
      by_cases hne : path = ""
      · rw [hne, hempty.1 hne]
      · have hne' : other ≠ "" := fun hnil => hne (hempty.2 hnil)
        rw [take_one_slashes (hslashes (htrimmed.trans hnone)) (by simpa using hne),
          take_one_slashes (hslashes hnone) (by simpa using hne')]
    · rfl

/-- The directory that a path lies in. A path without a slash is its own
    directory. Otherwise the last slash ends the directory, and belongs to it
    only at the top. -/
inductive LiesIn (path : String) : String → Prop
  | alone (free : '/' ∉ path.toList) : LiesIn path path
  | top {name : List Char} (path_eq : path.toList = '/' :: name) (free : '/' ∉ name) :
    LiesIn path "/"
  | below {dir : String} {name : List Char} (dir_ne : dir ≠ "")
    (path_eq : path.toList = dir.toList ++ '/' :: name) (free : '/' ∉ name) : LiesIn path dir

/-- The last slash is the one before a name without slashes. -/
theorem beforeLastSlash?_append (before : List Char) {name : List Char} (hfree : '/' ∉ name) :
    beforeLastSlash? (before ++ '/' :: name) = some before := by
  have hpass : ∀ c ∈ name.reverse, (c != '/') = true := by
    intro c hc
    rw [bne_iff_ne]
    rintro rfl
    exact hfree (List.mem_reverse.1 hc)
  have hreverse : (before ++ '/' :: name).reverse = name.reverse ++ '/' :: before.reverse := by simp
  rw [beforeLastSlash?, hreverse, List.dropWhile_append_of_pos hpass]
  simp

/-- The parent that is computed is the directory that the path lies in. There is
    one such directory only, since the last slash of a path is fixed. -/
theorem LiesIn.parentOf_eq {path dir : String} (hlies : LiesIn path dir) : parentOf path = dir := by
  cases hlies with
  | alone hfree =>
    have hpass : path.toList.reverse.dropWhile (· != '/') = [] :=
      List.dropWhile_eq_nil_iff.2 fun c hc => by
        rw [bne_iff_ne]
        rintro rfl
        exact hfree (List.mem_reverse.1 hc)
    rw [parentOf, beforeLastSlash?, hpass]
  | top hpath hfree =>
    rw [parentOf, hpath, ← List.nil_append ('/' :: _), beforeLastSlash?_append _ hfree]
  | below hne hpath hfree =>
    rw [parentOf, hpath, beforeLastSlash?_append _ hfree]
    split
    · contradiction
    · rename_i hnone
      exact absurd (String.toList_eq_nil_iff.1 (Option.some.inj hnone)) hne
    · rename_i hbefore
      rw [← Option.some.inj hbefore, String.ofList_toList]

/-- Every path lies in its parent. The cases are that it has no slash, that its
    last slash is the first character, and that there is a directory before it. -/
theorem liesIn_parentOf (path : String) : LiesIn path (parentOf path) := by
  obtain ⟨dir, hlies⟩ : ∃ dir, LiesIn path dir := by
    by_cases hslash : '/' ∈ path.toList
    · obtain ⟨name, before, hreverse, hfree⟩ :=
        List.eq_append_cons_of_mem (List.mem_reverse.2 hslash)
      rw [List.reverse_eq_iff] at hreverse
      rw [← List.mem_reverse] at hfree
      by_cases hbefore : before = []
      · exact ⟨_, .top (by simpa [hbefore] using hreverse) hfree⟩
      · exact ⟨String.ofList before.reverse,
          .below (by simpa using hbefore) (by simpa using hreverse) hfree⟩
    · exact ⟨_, .alone hslash⟩
  rwa [hlies.parentOf_eq]

/-- A path with a name has a parent with a name, the top at least. -/
theorem parentOf_ne {path : String} (hne : path ≠ "") : parentOf path ≠ "" := by
  have hlies := liesIn_parentOf path
  generalize parentOf path = dir at hlies
  cases hlies with
  | alone => exact hne
  | top => decide
  | below hdir => exact hdir

/-- The parent of a path is a start of it. -/
theorem parentOf_isPrefix (path : String) : (parentOf path).toList <+: path.toList := by
  have hlies := liesIn_parentOf path
  generalize parentOf path = dir at hlies
  cases hlies with
  | alone => exact List.prefix_rfl
  | top hpath => exact ⟨_, hpath.symm⟩
  | below _ hpath => exact ⟨_, hpath.symm⟩

/-- A start of the path before a slash is a start of the directory, as the last
    slash comes no earlier than that one. -/
theorem prefix_parentOf_append {path : String} {start rest : List Char}
    (hpath : path.toList = start ++ rest) (hslash : '/' ∈ rest) :
    start <+: (parentOf path).toList := by
  have hlies := liesIn_parentOf path
  generalize parentOf path = dir at hlies
  cases hlies with
  | alone hfree => exact absurd (by simp [hpath, hslash]) hfree
  | top hname hfree =>
    rw [hpath, List.append_eq_cons_iff] at hname
    rcases hname with ⟨rfl, _⟩ | ⟨more, _, rfl⟩
    · exact List.nil_prefix
    · exact absurd (List.mem_append_right _ hslash) hfree
  | below _ hname hfree =>
    rw [hpath, List.append_eq_append_iff] at hname
    rcases hname with ⟨more, hdir, _⟩ | ⟨more, hstart, hmore⟩
    · exact ⟨more, hdir.symm⟩
    · rcases List.cons_eq_append_iff.1 hmore with ⟨rfl, _⟩ | ⟨others, _, rfl⟩
      · rw [hstart, List.append_nil]
      · exact absurd (List.mem_append_right _ hslash) hfree

/-- The directory keeps every start without slashes, since it reaches up to a
    slash at least. -/
theorem prefix_parentOf_iff {start : List Char} (hfree : '/' ∉ start) (path : String) :
    start <+: (parentOf path).toList ↔ start <+: path.toList := by
  refine ⟨fun hstarts => hstarts.trans (parentOf_isPrefix path), ?_⟩
  rintro ⟨rest, hpath⟩
  by_cases hslash : '/' ∈ rest
  · exact prefix_parentOf_append hpath.symm hslash
  · have hlies := liesIn_parentOf path
    generalize parentOf path = dir at hlies
    have hnone : '/' ∉ path.toList := by simp [← hpath, hfree, hslash]
    cases hlies with
    | alone => exact ⟨rest, hpath⟩
    | top hname => exact absurd (by simp [hname]) hnone
    | below _ hname => exact absurd (by simp [hname]) hnone

/-- Going up makes a path with a slash shorter, unless it is the top, which is
    its own parent. -/
theorem length_trimDir_parentOf_lt {path : String} (hslash : '/' ∈ path.toList)
    (htop : path ≠ "/") : (trimDir (parentOf path)).toList.length < path.toList.length := by
  refine Nat.lt_of_le_of_lt (trimDir_isPrefix _).length_le ?_
  have hlies := liesIn_parentOf path
  generalize parentOf path = dir at hlies
  cases hlies with
  | alone hfree => exact absurd hslash hfree
  | @top name hpath =>
    have hname : name ≠ [] := by
      rintro rfl
      exact htop (String.toList_inj.1 hpath)
    simpa [hpath] using List.length_pos_iff.2 hname
  | below _ hpath => simp [hpath]

/-- A path is a directory, or lies in it at any depth. What lies in a directory
    has the name of the directory before a slash; a path that only starts with
    the same letters does not lie in it. -/
def Inside (dir path : String) : Prop :=
  path = dir ∨ ∃ rest, rest ≠ "" ∧ path = joinPath dir rest

/-- Joining puts a name behind the directory with a slash at its end. -/
theorem toList_joinPath (dir name : String) :
    (joinPath dir name).toList = (joinPath dir "").toList ++ name.toList := by
  unfold joinPath
  split <;> simp

theorem toList_joinPath_empty {dir : String} (hends : dir.toList.getLast? ≠ some '/') :
    (joinPath dir "").toList = dir.toList ++ ['/'] := by
  rw [joinPath, if_neg hends]
  simp

/-- With a slash at its end, the top stays what it is, and another directory
    gets longer. -/
theorem Trimmed.joinPath_cases {dir : String} (hdir : Trimmed dir) :
    dir = "/" ∧ joinPath dir "" = "/" ∨
      dir.toList.getLast? ≠ some '/' ∧ (joinPath dir "").toList = dir.toList ++ ['/'] := by
  by_cases hends : dir.toList.getLast? = some '/'
  · obtain rfl := hdir hends
    exact .inl ⟨rfl, rfl⟩
  · exact .inr ⟨hends, toList_joinPath_empty hends⟩

theorem Inside.eq_or_isPrefix {dir path : String} (hinside : Inside dir path) :
    path = dir ∨ (joinPath dir "").toList <+: path.toList := by
  rcases hinside with rfl | ⟨rest, _, rfl⟩
  · exact .inl rfl
  · exact .inr ⟨rest.toList, (toList_joinPath dir rest).symm⟩

/-- A joined path has a slash, be it the one that ends the directory. -/
theorem slash_mem_joinPath (dir name : String) : '/' ∈ (joinPath dir name).toList := by
  unfold joinPath
  split
  · rename_i hends
    simp [List.mem_of_getLast? hends]
  · simp

/-- The way up from inside of a directory gets shorter. The path has a slash,
    and it is not the top, since nothing contains the top but itself. -/
theorem Inside.length_up_lt {dir path : String} (hinside : Inside dir path)
    (hdeeper : path ≠ dir) : (trimDir (parentOf path)).toList.length < path.toList.length := by
  obtain ⟨rest, hrest, rfl⟩ := hinside.resolve_left hdeeper
  refine length_trimDir_parentOf_lt (slash_mem_joinPath dir rest) fun htop => ?_
  have hlength := congrArg (·.toList.length) htop
  have hdir : 0 < (joinPath dir "").toList.length :=
    List.length_pos_of_mem (slash_mem_joinPath dir "")
  have hname : 0 < rest.toList.length := by
    rw [List.length_pos_iff, ne_eq, String.toList_eq_nil_iff]
    exact hrest
  have htwo : (joinPath dir "").toList.length + rest.toList.length = 1 := by
    rw [← List.length_append, ← toList_joinPath]
    exact hlength
  omega

section

variable {dir : String} (hdir : Trimmed dir) (hne : dir ≠ "")
include hdir hne

/-- To lie in a directory is to start with its name and a slash. A trimmed path
    that does so goes on behind the slash, so that the rest is not empty. -/
theorem inside_iff {path : String} (hpath : Trimmed path) :
    Inside dir path ↔ path = dir ∨ (joinPath dir "").toList <+: path.toList := by
  constructor
  · exact Inside.eq_or_isPrefix
  · rintro (rfl | ⟨rest, hrest⟩)
    · exact .inl rfl
    have hjoin : path = joinPath dir (String.ofList rest) := by
      rw [← String.toList_inj, toList_joinPath, String.toList_ofList, hrest]
    by_cases hempty : String.ofList rest = ""
    · rw [hempty] at hjoin
      -- A path that is trimmed cannot end in the slash behind the directory, unless at the top.
      rcases hdir.joinPath_cases with ⟨rfl, hopened⟩ | ⟨_, hopened⟩
      · exact .inl (hjoin.trans hopened)
      · have htop : path = "/" := hpath (by simp [hjoin, hopened])
        have hlength := congrArg List.length hopened
        rw [← hjoin, htop, List.length_append] at hlength
        exact absurd (String.toList_eq_nil_iff.1 (List.length_eq_zero_iff.1
          (Nat.succ.inj hlength).symm)) hne
    · exact .inr ⟨_, hempty, hjoin⟩

/-- Trimming keeps a path in its directory, as it does not cut into the name of
    the directory. -/
theorem inside_trimDir {path : String}
    (hpath : path = dir ∨ (joinPath dir "").toList <+: path.toList) :
    Inside dir (trimDir path) := by
  rw [inside_iff hdir hne (trimmed_trimDir path)]
  rcases hpath with rfl | hopened
  · exact .inl (trimDir_of_trimmed hdir)
  rcases hdir.joinPath_cases with ⟨rfl, htop⟩ | ⟨_, hslash⟩
  · exact .inr ((prefix_trimDir_iff hdir).2 hopened)
  · have hstarts : dir.toList <+: (trimDir path).toList :=
      (prefix_trimDir_iff hdir).2 ((hslash ▸ List.prefix_append _ _).trans hopened)
    by_cases hlength : (trimDir path).toList.length ≤ dir.toList.length
    · exact .inl (String.toList_inj.1 (hstarts.eq_of_length_le hlength).symm)
    · refine .inr (List.prefix_of_prefix_length_le hopened (trimDir_isPrefix path) ?_)
      rw [hslash, List.length_append]
      exact Nat.lt_of_not_le hlength

/-- The parent of a name in a directory is the directory. -/
theorem parentOf_joinPath {name : String} (hfree : '/' ∉ name.toList) :
    parentOf (joinPath dir name) = dir := by
  refine LiesIn.parentOf_eq ?_
  have hjoin := toList_joinPath dir name
  rcases hdir.joinPath_cases with ⟨rfl, hopened⟩ | ⟨_, hopened⟩
  · exact .top (by rw [hjoin, hopened]; rfl) hfree
  · exact .below hne (by rw [hjoin, hopened]; simp) hfree

/-- Into a directory that lies in another one, and further down. -/
theorem Inside.down {path : String} (hinside : Inside dir path) (name : String) :
    Inside dir (trimDir (joinPath path name)) := by
  refine inside_trimDir hdir hne (.inr ?_)
  have hjoin : (joinPath path "").toList <+: (joinPath path name).toList :=
    ⟨name.toList, (toList_joinPath path name).symm⟩
  rcases hinside.eq_or_isPrefix with rfl | hstarts
  · exact hjoin
  · have hpath : path.toList <+: (joinPath path "").toList := by
      unfold joinPath
      split <;> simp
    exact (hstarts.trans hpath).trans hjoin

/-- The parent of what goes on behind the slash of a directory does so too, or
    is the directory. -/
theorem parentOf_of_slash {path : String} (hpath : (joinPath dir "").toList <+: path.toList) :
    parentOf path = dir ∨ (joinPath dir "").toList <+: (parentOf path).toList := by
  obtain ⟨rest, hrest⟩ := hpath
  by_cases hslash : '/' ∈ rest
  · exact .inr (prefix_parentOf_append hrest.symm hslash)
  · have hjoin : path = joinPath dir (String.ofList rest) := by
      rw [← String.toList_inj, toList_joinPath, String.toList_ofList, hrest]
    rw [hjoin]
    exact .inl (parentOf_joinPath hdir hne (by simpa using hslash))

/-- Up from a directory that lies in another one, the path stays in that one,
    because the last slash is the one behind its name or comes later. -/
theorem Inside.up {path : String} (hinside : Inside dir path) (hdeeper : path ≠ dir) :
    Inside dir (trimDir (parentOf path)) :=
  inside_trimDir hdir hne
    (parentOf_of_slash hdir hne (hinside.eq_or_isPrefix.resolve_left hdeeper))

end

end Interlock.Menu
