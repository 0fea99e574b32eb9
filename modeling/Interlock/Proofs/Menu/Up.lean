import Interlock.Proofs.Menu.Move
import Mathlib.Logic.Function.Iterate

namespace Interlock.Menu

namespace Navigator

/-- The navigator after a click on the way up. Line 0 leads from a menu to the
    directory above, to the root from outside of it, and from the root to the
    watch screen. -/
def up (n : Navigator) : Navigator :=
  (goUp { n with line := 0 }).value.1

theorem value_click_up (n : Navigator) (card : Card) (flags : MachineFlags) :
    (n.click 0 card flags).value.1 = n.up := rfl

section

variable {n : Navigator}

theorem screen_up_of_root (hmode : n.mode = .menu) (hpath : n.path = n.root) :
    n.up.screen = .watch := by
  simp [up, goUp, hmode, hpath, leaveToWatch]

/-- Whether the directory above belongs to the root is told by its first
    letters, without regard to where a name ends. -/
theorem above_of_menu (hmode : n.mode = .menu) : n.above =
    if n.root.toList <+: (parentOf n.path).toList then parentOf n.path else n.root := by
  simp [above, isBrowsing, hmode]

/-- From any other menu the way up leads to the directory above, or to the root
    from outside of it. -/
theorem up_of_menu (hmode : n.mode = .menu) (hpath : n.path ≠ n.root) :
    n.up = enter { n with line := 0 }
      (if n.root.toList <+: (parentOf n.path).toList then parentOf n.path else n.root) := by
  have habove : above { n with line := 0 } =
      if n.root.toList <+: (parentOf n.path).toList then parentOf n.path else n.root :=
    above_of_menu hmode
  unfold up goUp
  split
  · rename_i hbrowse
    cases hmode.symm.trans hbrowse
  · rw [if_neg hpath, habove]

/-- Browsing, the way up from the directory where it began leads back to the
    menu it came from. -/
theorem up_of_start {start returnMenu origin : String}
    (hmode : n.mode = .browse start returnMenu origin) (hpath : n.path = start) :
    n.up = enter { n with line := 0, mode := .menu } origin := by
  simp only [up, goUp, hmode, if_pos hpath]

/-- Browsing, the way up from anywhere but the start leads to the directory
    above. -/
theorem up_of_browse {start returnMenu origin : String}
    (hmode : n.mode = .browse start returnMenu origin) (hpath : n.path ≠ start) :
    n.up = enter { n with line := 0 } (parentOf n.path) := by
  have habove : above { n with line := 0 } = parentOf n.path := by
    simp [above, isBrowsing, hmode]
  unfold up goUp
  split
  · rename_i hbrowse
    obtain ⟨rfl, _⟩ := Mode.browse.inj (hmode.symm.trans hbrowse)
    rw [if_neg hpath, habove]
  · rename_i hmenu
    cases hmode.symm.trans hmenu

end

end Navigator

/-- Going up from a path ends outside of the root. The path goes on where the
    name of the root ends, and has a slash behind that, or the root has none. A
    directory beside the root is then taken for one below it. Under a root
    without a name, the way up also ends outside at the top. -/
inductive Strays (root path : String) : Prop
  | beside {c : Char} {rest : List Char} (root_end : root.toList.getLast? ≠ some '/')
    (path_eq : path.toList = root.toList ++ c :: rest) (other : c ≠ '/')
    (cut : '/' ∈ rest ∨ '/' ∉ root.toList) : Strays root path
  | top (root_eq : root = "") (dir_eq : trimDir (parentOf path) = "/") : Strays root path

section

variable {root path : String} {c : Char} {rest : List Char}

/-- The directory of a path beside the root still goes on where the root ends,
    because the last slash comes later, or because there is none and the path is
    its own directory. -/
theorem prefix_parentOf_beside (hpath : path.toList = root.toList ++ c :: rest) (hother : c ≠ '/')
    (hcut : '/' ∈ rest ∨ '/' ∉ root.toList) :
    root.toList ++ [c] <+: (parentOf path).toList := by
  have hsplit : path.toList = (root.toList ++ [c]) ++ rest := by simp [hpath]
  rcases hcut with hslash | hfree
  · exact prefix_parentOf_append hsplit hslash
  · have hstart : '/' ∉ root.toList ++ [c] := by simp [hfree, hother.symm]
    exact (prefix_parentOf_iff hstart path).2 ⟨rest, hsplit.symm⟩

/-- The last slash stands in the root, and what is above the path does not hold
    all of it. -/
theorem not_prefix_parentOf (hends : root.toList.getLast? ≠ some '/')
    (hpath : path.toList = root.toList ++ c :: rest) (hother : c ≠ '/') (hrest : '/' ∉ rest)
    (hslash : '/' ∈ root.toList) : ¬root.toList <+: (parentOf path).toList := by
  intro hstarts
  have hlies := liesIn_parentOf path
  generalize parentOf path = dir at hlies hstarts
  cases hlies with
  | alone hfree => exact hfree (by simp [hpath, hslash])
  | top =>
    rcases List.prefix_cons_iff.1 hstarts with hnone | ⟨more, hroot, hmore⟩
    · simp [hnone] at hslash
    · rw [List.prefix_nil.1 hmore] at hroot
      exact hends (by rw [hroot]; rfl)
  | @below _ name _ hname =>
    obtain ⟨more, hdir⟩ := hstarts
    rw [hpath, ← hdir, List.append_assoc, List.append_cancel_left_eq] at hname
    rcases List.cons_eq_append_iff.1 hname with ⟨_, hcut⟩ | ⟨others, _, rfl⟩
    · exact hother (List.cons.inj hcut).1.symm
    · exact hrest (by simp)

/-- What goes on behind the name of the root is not inside of it, since a slash
    would have to stand there. -/
theorem not_inside_of_beside {dir : String} (hends : root.toList.getLast? ≠ some '/')
    (hother : c ≠ '/') (hstarts : root.toList ++ [c] <+: dir.toList) : ¬Inside root dir := by
  obtain ⟨more, hmore⟩ := hstarts
  intro hinside
  rcases hinside.eq_or_isPrefix with rfl | ⟨others, hothers⟩
  · simpa using congrArg List.length hmore
  · rw [toList_joinPath_empty hends, ← hmore, List.append_assoc, List.append_assoc,
      List.append_cancel_left_eq] at hothers
    exact hother (List.cons.inj hothers).1.symm

/-- A path beside the root that keeps the root on the way up strays, and comes
    out outside of it. -/
theorem strays_of_beside (hends : root.toList.getLast? ≠ some '/')
    (hpath : path.toList = root.toList ++ c :: rest) (hother : c ≠ '/')
    (hstarts : root.toList <+: (parentOf path).toList) :
    Strays root path ∧ ¬Inside root (trimDir (parentOf path)) := by
  have hcut : '/' ∈ rest ∨ '/' ∉ root.toList := by
    by_contra hneither
    obtain ⟨hrest, hslash⟩ := not_or.1 hneither
    exact not_prefix_parentOf hends hpath hother hrest (not_not.1 hslash) hstarts
  refine ⟨.beside hends hpath hother hcut, not_inside_of_beside hends hother ?_⟩
  refine prefix_trimDir_of_not_ends (by simpa using hother) ?_
  exact prefix_parentOf_beside hpath hother hcut

/-- Behind the slash of a root with a name nothing strays. -/
theorem not_strays_of_slash (hroot : Trimmed root) (hne : root ≠ "")
    (hslash : (joinPath root "").toList <+: path.toList) : ¬Strays root path := by
  rintro (⟨hends, hpath, hother, _⟩ | ⟨rfl, _⟩)
  · obtain ⟨more, hmore⟩ := hslash
    rw [toList_joinPath_empty hends, hpath, List.append_assoc, List.append_cancel_left_eq] at hmore
    exact hother (List.cons.inj hmore).1.symm
  · exact hne rfl

/-- Under a root without a name, what starts with a slash is inside, but for the
    top. -/
theorem inside_empty_iff (hpath : path.toList = '/' :: rest) : Inside "" path ↔ path ≠ "/" := by
  constructor
  · rintro (rfl | ⟨rest, hne, rfl⟩) htop
    · exact absurd htop (by decide)
    · have hjoin : "/".toList ++ rest.toList = "/".toList :=
        (toList_joinPath "" rest).symm.trans (congrArg String.toList htop)
      exact hne (String.toList_eq_nil_iff.1 (List.append_right_eq_self.1 hjoin))
  · intro htop
    refine .inr ⟨String.ofList rest, ?_, ?_⟩
    · intro hnone
      obtain rfl : rest = [] := by simpa using hnone
      exact htop (String.toList_inj.1 hpath)
    · rw [← String.toList_inj, hpath]
      simp [joinPath]

/-- Under a root without a name, the way up from a path that starts with a slash
    is inside unless it ends at the top. -/
theorem inside_above_empty_iff (hpath : path.toList = '/' :: rest) :
    Inside "" (trimDir (parentOf path)) ↔ ¬Strays "" path := by
  have hne : path ≠ "" := by
    rintro rfl
    cases hpath
  have hstart : ∃ more, (trimDir (parentOf path)).toList = '/' :: more := by
    have hstarts := (trimDir_isPrefix (parentOf path)).trans (parentOf_isPrefix path)
    rw [hpath, List.prefix_cons_iff] at hstarts
    rcases hstarts with hnone | ⟨more, hmore, _⟩
    · exact absurd (String.toList_eq_nil_iff.1 hnone) (trimDir_ne (parentOf_ne hne))
    · exact ⟨more, hmore⟩
  obtain ⟨more, hmore⟩ := hstart
  rw [inside_empty_iff hmore, not_iff_not]
  constructor
  · exact .top rfl
  · rintro (⟨_, hbeside, hother, _⟩ | ⟨_, htop⟩)
    · rw [hpath] at hbeside
      exact absurd (List.cons.inj hbeside).1.symm hother
    · exact htop

/-- The directory that the way up leads to lies in the root exactly unless the
    path strays. The way up is led back to the root unless the directory above
    begins with its letters. If it does, the path goes on behind a slash and
    stays inside, or goes on without one and strays. -/
theorem inside_above_iff (hroot : Trimmed root) (hpath : path ≠ root) :
    Inside root (trimDir
        (if root.toList <+: (parentOf path).toList then parentOf path else root)) ↔
      ¬Strays root path := by
  by_cases hstarts : root.toList <+: (parentOf path).toList
  · rw [if_pos hstarts]
    obtain ⟨suffix, hsuffix⟩ := hstarts.trans (parentOf_isPrefix path)
    cases suffix with
    | nil => exact absurd (String.toList_inj.1 (by simpa using hsuffix.symm)) hpath
    | cons c rest =>
      by_cases hends : root.toList.getLast? = some '/'
      · obtain rfl := hroot hends
        exact iff_of_true (inside_trimDir hroot (by decide) (.inr hstarts))
          (not_strays_of_slash hroot (by decide) ⟨c :: rest, hsuffix⟩)
      by_cases hslash : c = '/'
      · subst hslash
        by_cases hne : root = ""
        · subst hne
          exact inside_above_empty_iff hsuffix.symm
        · have hbelow : (joinPath root "").toList <+: path.toList :=
            ⟨rest, by rw [toList_joinPath_empty hends, ← hsuffix]; simp⟩
          exact iff_of_true (inside_trimDir hroot hne (parentOf_of_slash hroot hne hbelow))
            (not_strays_of_slash hroot hne hbelow)
      · obtain ⟨hstrays, houtside⟩ := strays_of_beside hends hsuffix.symm hslash hstarts
        exact iff_of_false houtside (not_not.2 hstrays)
  · rw [if_neg hstarts, trimDir_of_trimmed hroot]
    refine iff_of_true (.inl rfl) ?_
    rintro (⟨_, hbeside, hother, hcut⟩ | ⟨rfl, _⟩)
    · exact hstarts ((List.prefix_append _ _).trans (prefix_parentOf_beside hbeside hother hcut))
    · exact hstarts List.nil_prefix

end

namespace Navigator

/-- In every history, the way up from a menu other than the root leads to the
    root or to a directory in it, exactly unless the path strays. Every path on
    display is trimmed, which is all that the judgement of a single click needs. -/
theorem up_stays_inside_iff (root language : String) (moves : List Move) :
    let n := (ofRoot root language).moveAll moves
    n.mode = .menu → n.path ≠ trimDir root → ∀ (card : Card) (flags : MachineFlags),
      (Inside (trimDir root) (n.click 0 card flags).value.1.path ↔
        ¬Strays (trimDir root) n.path) := by
  intro n hmode hpath card flags
  have hroot : n.root = trimDir root := root_moveAll (ofRoot root language) moves
  have hplaced : n.Placed := (placed_ofRoot root language).moveAll moves
  rw [← hroot] at hpath ⊢
  rw [value_click_up, up_of_menu hmode hpath, path_enter]
  exact inside_above_iff hplaced.root_trimmed hpath

/-- A menu below the root, from which the way up stays inside. -/
theorem up_stays_inside_tools :
    let n := (ofRoot "/sd/menu" "en").moveAll [.called (.showMenu "/sd/menu/tools")]
    Inside "/sd/menu" (n.click 0 .absent {}).value.1.path := by
  intro n
  have hstays : ¬Strays "/sd/menu" "/sd/menu/tools" :=
    not_strays_of_slash (by decide) (by decide) ⟨"tools".toList, by decide⟩
  exact (up_stays_inside_iff "/sd/menu" "en" [.called (.showMenu "/sd/menu/tools")] (by decide)
    (by decide) .absent {}).2 hstays

/-- A menu beside the root, whose name goes on where that of the root ends: the
    way up leads to a directory outside of the root. -/
theorem up_beside_root :
    ¬∀ (root language : String) (moves : List Move) (card : Card) (flags : MachineFlags),
      let n := (ofRoot root language).moveAll moves
      n.mode = .menu → n.path ≠ trimDir root →
        Inside (trimDir root) (n.click 0 card flags).value.1.path := by
  intro hinside
  have hmenu := hinside "/sd/menu" "en" [.called (.showMenu "/sd/menu2/tools")] .absent {}
    (by decide) (by decide)
  rcases hmenu.eq_or_isPrefix with hroot | hstarts
  · exact absurd hroot (by decide)
  · exact absurd hstarts (by decide)

end Navigator

/-- The way up from a path never gets to the root. Without a slash in the root,
    it ends at the first name of the path, which is its own directory; that name
    goes on where the root ends, or the root has none. -/
inductive Trapped (root path : String) : Prop
  | nameless (root_eq : root = "") (path_ne : path ≠ "") : Trapped root path
  | beside {c : Char} (free : '/' ∉ root.toList) (other : c ≠ '/')
    (goes_on : root.toList ++ [c] <+: path.toList) : Trapped root path

section

variable {root path : String}

/-- A trapped path is not the root. -/
theorem Trapped.ne (htrapped : Trapped root path) : path ≠ root := by
  rintro rfl
  cases htrapped with
  | nameless hroot hpath => exact hpath hroot
  | beside _ _ hstarts =>
    have hlength := hstarts.length_le
    rw [List.length_append] at hlength
    exact Nat.not_succ_le_self _ hlength

/-- A trapped path begins with the letters of the root, so the way up takes it
    for a menu below. -/
theorem Trapped.isPrefix (htrapped : Trapped root path) : root.toList <+: path.toList := by
  cases htrapped with
  | nameless hroot => exact hroot ▸ List.nil_prefix
  | beside _ _ hstarts => exact (List.prefix_append _ _).trans hstarts

/-- Only a root without slashes traps. -/
theorem Trapped.free (htrapped : Trapped root path) : '/' ∉ root.toList := by
  cases htrapped with
  | nameless hroot => simp [hroot]
  | beside hfree => exact hfree

/-- Whether a path is trapped depends on its start without slashes only, since
    the root has none and the letter behind it is no slash. -/
theorem trapped_congr {path' : String} (hne : path' ≠ "" ↔ path ≠ "")
    (hstart : ∀ start : List Char, '/' ∉ start →
      (start <+: path'.toList ↔ start <+: path.toList)) :
    Trapped root path' ↔ Trapped root path := by
  have hgoes {c : Char} (hfree : '/' ∉ root.toList) (hother : c ≠ '/') :=
    hstart (root.toList ++ [c]) (by simp [hfree, hother.symm])
  constructor
  · rintro (⟨hroot, hpath⟩ | ⟨hfree, hother, hstarts⟩)
    · exact .nameless hroot (hne.1 hpath)
    · exact .beside hfree hother ((hgoes hfree hother).1 hstarts)
  · rintro (⟨hroot, hpath⟩ | ⟨hfree, hother, hstarts⟩)
    · exact .nameless hroot (hne.2 hpath)
    · exact .beside hfree hother ((hgoes hfree hother).2 hstarts)

theorem ne_empty_of_isPrefix {path' : String} (hstarts : path'.toList <+: path.toList)
    (hne : path' ≠ "") : path ≠ "" := by
  rintro rfl
  exact hne (String.toList_eq_nil_iff.1 (List.prefix_nil.1 hstarts))

/-- Slashes at the end are of no account. -/
theorem trapped_trimDir_iff : Trapped root (trimDir path) ↔ Trapped root path := by
  have hne : trimDir path ≠ "" ↔ path ≠ "" :=
    ⟨ne_empty_of_isPrefix (trimDir_isPrefix path), trimDir_ne⟩
  refine trapped_congr hne fun start hfree => ?_
  refine ⟨fun hstarts => hstarts.trans (trimDir_isPrefix path), ?_⟩
  refine prefix_trimDir_of_not_ends fun hends => ?_
  exact hfree (List.mem_of_getLast? hends)

/-- Going up neither traps a path nor frees it, since the directory keeps every
    start without slashes. -/
theorem trapped_parentOf_iff : Trapped root (parentOf path) ↔ Trapped root path :=
  trapped_congr ⟨ne_empty_of_isPrefix (parentOf_isPrefix path), parentOf_ne⟩ fun _ hfree =>
    prefix_parentOf_iff hfree path

/-- A path that is not trapped has a directory of its own, if that is not
    outside of the root. Without a slash the path would be its own directory and
    begin with the root, and so be trapped. -/
theorem has_parent_of_not_trapped (hpath : path ≠ root)
    (hstarts : root.toList <+: (parentOf path).toList) (hfree : ¬Trapped root path) :
    '/' ∈ path.toList ∧ path ≠ "/" := by
  obtain ⟨suffix, hsuffix⟩ := hstarts.trans (parentOf_isPrefix path)
  constructor
  · by_contra hslash
    cases suffix with
    | nil => exact hpath (String.toList_inj.1 (by simpa using hsuffix.symm))
    | cons c rest =>
      rw [← hsuffix, List.mem_append, List.mem_cons, not_or, not_or] at hslash
      obtain ⟨hroot, hother, _⟩ := hslash
      exact hfree (.beside hroot (Ne.symm hother) ⟨rest, by simpa using hsuffix⟩)
  · rintro rfl
    rcases List.prefix_cons_iff.1 (hstarts.trans (parentOf_isPrefix _)) with
      hnone | ⟨more, hroot, hmore⟩
    · exact hfree (.nameless (String.toList_eq_nil_iff.1 hnone) (by decide))
    · rw [List.prefix_nil.1 hmore] at hroot
      exact hpath (String.toList_inj.1 hroot.symm)

end

namespace Navigator

/-- The menu that the navigator is in, or that browsing returns to. -/
def menuPath (n : Navigator) : String :=
  match n.mode with
  | .menu => n.path
  | .browse _ _ origin => origin

/-- Enough clicks on the way up bring the watch screen. -/
def Leaves (n : Navigator) : Prop :=
  ∃ count, (up^[count] n).screen = .watch

section

variable {n : Navigator}

/-- One click more does no harm. -/
theorem Leaves.of_up (hleaves : n.up.Leaves) : n.Leaves := by
  obtain ⟨count, hscreen⟩ := hleaves
  exact ⟨count + 1, hscreen⟩

theorem Placed.up (hplaced : n.Placed) : n.up.Placed :=
  hplaced.move (.click 0 .absent {})

theorem root_up (n : Navigator) : n.up.root = n.root :=
  n.root_moveAll [.click 0 .absent {}]

/-- From a menu that is not trapped the way up gets shorter, until it comes to
    the root. The induction is on the length of the path; outside of the root
    one click leads to the root. -/
theorem Placed.leaves_of_menu (hplaced : n.Placed) (hmode : n.mode = .menu)
    (hfree : ¬Trapped n.root n.path) : n.Leaves := by
  induction hlength : n.path.toList.length using Nat.strong_induction_on generalizing n with
  | h length ih =>
    by_cases hpath : n.path = n.root
    · exact ⟨1, screen_up_of_root hmode hpath⟩
    have hup := up_of_menu hmode hpath
    have hmenu : n.up.mode = .menu := by rw [hup, mode_enter, hmode]
    by_cases hstarts : n.root.toList <+: (parentOf n.path).toList
    · have hpathUp : n.up.path = trimDir (parentOf n.path) := by
        rw [hup, path_enter, if_pos hstarts]
      obtain ⟨hslash, htop⟩ := has_parent_of_not_trapped hpath hstarts hfree
      refine .of_up (ih _ ?_ hplaced.up hmenu ?_ rfl)
      · rw [← hlength, hpathUp]
        exact length_trimDir_parentOf_lt hslash htop
      · rwa [root_up, hpathUp, trapped_trimDir_iff, trapped_parentOf_iff]
    · have hpathUp : n.up.path = n.root := by
        rw [hup, path_enter, if_neg hstarts, trimDir_of_trimmed hplaced.root_trimmed]
      exact .of_up ⟨1, screen_up_of_root hmenu (by rw [hpathUp, root_up])⟩

/-- Browsing, the way up comes to the directory where it began, since it never
    leaves it and gets shorter, and from there to the menus. -/
theorem Placed.leaves_of_browse (hplaced : n.Placed) {start returnMenu origin : String}
    (hmode : n.mode = .browse start returnMenu origin) (hfree : ¬Trapped n.root origin) :
    n.Leaves := by
  induction hlength : n.path.toList.length using Nat.strong_induction_on generalizing n with
  | h length ih =>
    by_cases hpath : n.path = start
    · have hup := up_of_start hmode hpath
      refine .of_up (hplaced.up.leaves_of_menu ?_ ?_)
      · rw [hup, mode_enter]
      · rwa [root_up, hup, path_enter, trapped_trimDir_iff]
    · have hup := up_of_browse hmode hpath
      obtain ⟨hstart, hne, hinside⟩ := hplaced.browses hmode
      refine .of_up (ih _ ?_ hplaced.up ?_ ?_ rfl)
      · rw [← hlength, hup, path_enter]
        exact hinside.length_up_lt hpath
      · rw [hup, mode_enter, hmode]
      · rwa [root_up]

/-- What is trapped stays in the menus: the way up leads to a trapped path
    again, and that is never the root. -/
theorem trapped_up (hscreen : n.screen = .menu) (htrapped : Trapped n.root n.menuPath) :
    n.up.screen = .menu ∧ Trapped n.up.root n.up.menuPath := by
  cases hmode : n.mode with
  | menu =>
    have hmenuPath : n.menuPath = n.path := by rw [menuPath, hmode]
    rw [hmenuPath] at htrapped
    have hstarts : n.root.toList <+: (parentOf n.path).toList :=
      (prefix_parentOf_iff htrapped.free n.path).2 htrapped.isPrefix
    have hup := up_of_menu hmode htrapped.ne
    rw [if_pos hstarts] at hup
    have hmenuUp : n.up.menuPath = trimDir (parentOf n.path) := by
      rw [hup, menuPath, mode_enter, hmode, path_enter]
    refine ⟨by rw [hup, screen_enter, hscreen], ?_⟩
    rwa [root_up, hmenuUp, trapped_trimDir_iff, trapped_parentOf_iff]
  | browse start returnMenu origin =>
    have hmenuPath : n.menuPath = origin := by rw [menuPath, hmode]
    rw [hmenuPath] at htrapped
    by_cases hpath : n.path = start
    · have hup := up_of_start hmode hpath
      have hmenuUp : n.up.menuPath = trimDir origin := by
        rw [hup, menuPath, mode_enter, path_enter]
      refine ⟨by rw [hup, screen_enter, hscreen], ?_⟩
      rwa [root_up, hmenuUp, trapped_trimDir_iff]
    · have hup := up_of_browse hmode hpath
      have hmenuUp : n.up.menuPath = origin := by
        rw [hup, menuPath, mode_enter, hmode]
      refine ⟨by rw [hup, screen_enter, hscreen], ?_⟩
      rwa [root_up, hmenuUp]

/-- No number of clicks brings the watch screen to a trapped navigator, by
    induction on that number. -/
theorem not_leaves_of_trapped (hscreen : n.screen = .menu) (htrapped : Trapped n.root n.menuPath) :
    ¬n.Leaves := by
  rintro ⟨count, hleft⟩
  induction count generalizing n with
  | zero => exact absurd (hscreen.symm.trans hleft) (by decide)
  | succ count ih =>
    obtain ⟨hscreenUp, htrappedUp⟩ := trapped_up hscreen htrapped
    exact ih hscreenUp htrappedUp hleft

/-- Enough clicks bring the watch screen exactly if it is there already or
    nothing is trapped. -/
theorem Placed.leaves_iff (hplaced : n.Placed) :
    n.Leaves ↔ n.screen = .watch ∨ ¬Trapped n.root n.menuPath := by
  constructor
  · intro hleaves
    cases hscreen : n.screen with
    | watch => exact .inl rfl
    | menu => exact .inr fun htrapped => not_leaves_of_trapped hscreen htrapped hleaves
  · rintro (hscreen | hfree)
    · exact ⟨0, hscreen⟩
    · cases hmode : n.mode with
      | menu =>
        rw [menuPath, hmode] at hfree
        exact hplaced.leaves_of_menu hmode hfree
      | browse start returnMenu origin =>
        rw [menuPath, hmode] at hfree
        exact hplaced.leaves_of_browse hmode hfree

/-- Clicks on the way up, whatever the card and the conditions of the machine
    are at each. -/
def upward (looks : List (Card × MachineFlags)) : List Move :=
  looks.map fun look => .click 0 look.1 look.2

/-- What the card and the machine are at each click does not matter. -/
theorem moveAll_upward (n : Navigator) (looks : List (Card × MachineFlags)) :
    n.moveAll (upward looks) = up^[looks.length] n := by
  induction looks generalizing n with
  | nil => rfl
  | cons look looks ih => exact ih n.up

end

/-- In every history, enough clicks on the way up bring the watch screen,
    exactly unless the path is trapped, or while browsing the path of the menu
    where that began. They do so whatever the card and the conditions of the
    machine are at each click. -/
theorem way_up_ends_iff (root language : String) (moves : List Move) :
    let n := (ofRoot root language).moveAll moves
    (∃ count, ∀ looks, looks.length = count → (n.moveAll (upward looks)).screen = .watch) ↔
      n.screen = .watch ∨ ¬Trapped (trimDir root) n.menuPath := by
  intro n
  have hroot : n.root = trimDir root := root_moveAll (ofRoot root language) moves
  have hplaced : n.Placed := (placed_ofRoot root language).moveAll moves
  rw [← hroot, ← hplaced.leaves_iff]
  refine exists_congr fun count => ?_
  simp only [moveAll_upward]
  constructor
  · intro hleft
    simpa using hleft (List.replicate count (.absent, {})) List.length_replicate
  · rintro hleft looks rfl
    exact hleft

/-- A menu beside a root without slashes, which no number of clicks leaves. -/
theorem way_up_stays :
    ¬∀ (root language : String) (moves : List Move),
      let n := (ofRoot root language).moveAll moves
      ∃ count, ∀ looks, looks.length = count → (n.moveAll (upward looks)).screen = .watch := by
  intro hends
  have hplaced : Placed ((ofRoot "menu" "en").moveAll [.called (.showMenu "menu2")]) :=
    (placed_ofRoot "menu" "en").moveAll _
  obtain ⟨count, hleft⟩ := hends "menu" "en" [.called (.showMenu "menu2")]
  have hleaves : Leaves ((ofRoot "menu" "en").moveAll [.called (.showMenu "menu2")]) := by
    have hlooks := hleft (List.replicate count (.absent, {})) List.length_replicate
    rw [moveAll_upward, List.length_replicate] at hlooks
    exact ⟨count, hlooks⟩
  refine not_leaves_of_trapped (by decide) ?_ hleaves
  exact .beside (by decide) (by decide : '2' ≠ '/') (by decide)

end Navigator

end Interlock.Menu
