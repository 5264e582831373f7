/-
# Paths are read back from their texts

A path is read from a text, and a text is made of it to be stored.  Not every path is the path of
a text: a name could be empty, or hold a slash, and there could be any number of slashes in front.
What is read is `Path.Proper`, what is computed from proper paths is proper again, and a proper
path is read back from its text (`Path.ofText_text`).

A path in settings is resolved once and then stored.  When the settings are read again it is an
absolute path, and of an absolute path nothing is resolved: no home folder, no folder of the
settings, no double dots and no links (`Settings.resolvePath_again`).  So it does not matter what
links there are.  The working folder has to be made of names, as that of every system is.
-/
import Mathlib.Data.List.Basic
import Vesting.Settings

namespace Vesting

/-! ## 1. Pieces of a text -/

namespace Text

variable {sep : Char} {piece rest : List Char} {pieces : List (List Char)}

theorem split_of_notMem (h : sep ∉ piece) : split sep piece = [piece] := by
  induction piece with
  | nil => rfl
  | cons c piece ih =>
    simp only [List.mem_cons, not_or] at h
    rw [split, if_neg (Ne.symm h.1), ih h.2]

theorem split_append (h : sep ∉ piece) :
    split sep (piece ++ sep :: rest) = piece :: split sep rest := by
  induction piece with
  | nil => simp [split]
  | cons c piece ih =>
    simp only [List.mem_cons, not_or] at h
    rw [List.cons_append, split, if_neg (Ne.symm h.1), ih h.2]

/-- Pieces without separators are found between them again. -/
theorem split_intercalate (hne : pieces ≠ []) (h : ∀ piece ∈ pieces, sep ∉ piece) :
    split sep ([sep].intercalate pieces) = pieces := by
  induction pieces with
  | nil => exact absurd rfl hne
  | cons piece pieces ih =>
    obtain ⟨hpiece, hpieces⟩ := List.forall_mem_cons.1 h
    cases pieces with
    | nil => rw [List.intercalate_singleton, split_of_notMem hpiece]
    | cons next pieces =>
      rw [List.intercalate_cons_cons, List.append_assoc, List.singleton_append,
        split_append hpiece, ih (by simp) hpieces]

end Text

/-! ## 2. Proper paths -/

namespace Path

variable {env : Environment} {p q : Path} {names : List String}

/-- Names that can stand between slashes. -/
def AreSteps (names : List String) : Prop :=
  ∀ name ∈ names, isStep name.toList = true ∧ '/' ∉ name.toList

instance (names : List String) : Decidable (AreSteps names) :=
  inferInstanceAs (Decidable (∀ name ∈ names, _))

/-- A path that some text names. -/
structure Proper (p : Path) : Prop where
  slashes : p.slashes ≤ 2
  names : AreSteps p.names

theorem AreSteps.append {names' : List String} (h : AreSteps names) (h' : AreSteps names') :
    AreSteps (names ++ names') :=
  List.forall_mem_append.2 ⟨h, h'⟩

theorem AreSteps.dropLast (h : AreSteps names) : AreSteps names.dropLast :=
  fun name hname => h name (List.dropLast_subset _ hname)

theorem proper_ofText (s : String) : (ofText s).Proper := by
  refine ⟨?_, fun name hname => ?_⟩
  · show leading s.toList ≤ 2
    unfold leading
    split <;> decide
  · obtain ⟨piece, hpiece, rfl⟩ := List.mem_map.1 hname
    obtain ⟨hsplit, hstep⟩ := List.mem_filter.1 hpiece
    rw [String.toList_ofList]
    exact ⟨hstep, Text.sep_notMem_of_mem_split hsplit⟩

/-- The characters behind the slashes in front do not start with one. -/
theorem head_intercalate (h : AreSteps names) :
    ∀ c ∈ (['/'].intercalate (names.map String.toList)).head?, c ≠ '/' := by
  intro c hc
  cases names with
  | nil => cases hc
  | cons name names =>
    obtain ⟨hstep, hslash⟩ := h name List.mem_cons_self
    cases hname : name.toList with
    | nil =>
      rw [hname] at hstep
      cases hstep
    | cons d rest =>
      have hd : c = d := by
        cases names with
        | nil => simpa [hname, eq_comm] using hc
        | cons next names => simpa [List.intercalate_cons_cons, hname, eq_comm] using hc
      rintro rfl
      exact hslash (by rw [hname, ← hd]; exact List.mem_cons_self)

/-- At most two slashes in front are counted as they are. -/
theorem leading_slashes {n : Nat} (hn : n ≤ 2) {body : List Char}
    (hbody : ∀ c ∈ body.head?, c ≠ '/') : leading (List.replicate n '/' ++ body) = n := by
  have hcases : n = 0 ∨ n = 1 ∨ n = 2 := by omega
  cases body with
  | nil => rcases hcases with rfl | rfl | rfl <;> rfl
  | cons c body =>
    have hc : c ≠ '/' := hbody c rfl
    rcases hcases with rfl | rfl | rfl
    all_goals simp [leading, hc, List.replicate_succ]

/-- No name stands between slashes in front. -/
theorem steps_slashes (n : Nat) (body : List Char) :
    (Text.split '/' (List.replicate n '/' ++ body)).filter isStep
      = (Text.split '/' body).filter isStep := by
  induction n with
  | zero => rfl
  | succ n ih =>
    rw [List.replicate_succ, List.cons_append, Text.split, if_pos rfl,
      List.filter_cons_of_neg (by decide), ih]

/-- The names are found between the slashes again. -/
theorem steps_intercalate (h : AreSteps names) :
    ((Text.split '/' (['/'].intercalate (names.map String.toList))).filter isStep).map String.ofList
      = names := by
  by_cases hnil : names = []
  · rw [hnil]
    rfl
  have hpieces : ∀ piece ∈ names.map String.toList, '/' ∉ piece :=
    List.forall_mem_map.2 fun name hname => (h name hname).2
  have hsteps : ∀ piece ∈ names.map String.toList, isStep piece = true :=
    List.forall_mem_map.2 fun name hname => (h name hname).1
  rw [Text.split_intercalate (by simpa using hnil) hpieces, List.filter_eq_self.2 hsteps,
    List.map_map]
  exact (List.map_congr_left fun name _ => String.ofList_toList).trans (List.map_id names)

theorem toList_text (h : ¬ (p.slashes = 0 ∧ p.names = [])) :
    p.text.toList = List.replicate p.slashes '/'
      ++ ['/'].intercalate (p.names.map String.toList) := by
  rw [text, if_neg h, String.toList_append, String.toList_ofList, String.toList_intercalate]
  rfl

/-- **A proper path is read back from its text.** -/
theorem ofText_text (h : p.Proper) : ofText p.text = p := by
  obtain ⟨slashes, names⟩ := p
  by_cases hempty : slashes = 0 ∧ names = []
  · obtain ⟨rfl, rfl⟩ := hempty
    decide
  rw [ofText, @toList_text ⟨slashes, names⟩ hempty,
    leading_slashes h.slashes (head_intercalate h.names), steps_slashes, steps_intercalate h.names]

/-! ## 3. What is computed from proper paths -/

theorem Proper.expand (h : p.Proper) (hexpand : expand env p = .ok q) : q.Proper := by
  unfold Path.expand at hexpand
  split at hexpand
  · rename_i first rest hslashes hnames
    split at hexpand
    · split at hexpand
      · cases hexpand
      · rename_i home _
        dsimp only at hexpand
        split at hexpand
        · cases hexpand
        · have hstart := proper_ofText (String.ofList (withoutEnd home.toList))
          generalize ofText (String.ofList (withoutEnd home.toList)) = start at hexpand hstart
          obtain rfl := Except.ok.inj hexpand
          refine ⟨hstart.slashes, hstart.names.append fun name hname => ?_⟩
          exact h.names name (hnames ▸ List.mem_cons_of_mem _ hname)
    · exact Except.ok.inj hexpand ▸ h
  · exact Except.ok.inj hexpand ▸ h

/-- Of an absolute path there is nothing to expand. -/
theorem expand_of_isAbsolute (h : p.isAbsolute = true) : expand env p = .ok p := by
  have hpos : 0 < p.slashes := by simpa [isAbsolute] using h
  unfold expand
  split
  · omega
  · rfl

theorem Proper.append (hp : p.Proper) (hq : q.Proper) : (p.append q).Proper := by
  unfold Path.append
  split
  · exact hq
  · exact ⟨hp.slashes, hp.names.append hq.names⟩

/-! ## 4. Following links -/

theorem areSteps_follow {enter : List String → Except (List String) (List String)}
    (henter : ∀ place entered, AreSteps place → enter place = .ok entered → AreSteps entered)
    {folder place : List String} (hfolder : AreSteps folder) (hnames : AreSteps names)
    (h : follow enter folder names = .ok place) : AreSteps place := by
  induction names generalizing folder with
  | nil => exact Except.ok.inj h ▸ hfolder
  | cons name rest ih =>
    obtain ⟨hname, hrest⟩ := List.forall_mem_cons.1 hnames
    rw [follow] at h
    split at h
    · exact ih hfolder.dropLast hrest h
    · split at h
      · rename_i entered hentered
        have hplace := hfolder.append (List.forall_mem_singleton.2 hname)
        exact ih (henter _ _ hplace hentered) hrest h
      · cases h

/-- A link leads over names that stand between the slashes of its target. -/
theorem areSteps_enter (left : Nat) (passed : List (List String)) {place entered : List String}
    (hplace : AreSteps place) (h : enter env left passed place = .ok entered) :
    AreSteps entered := by
  induction left generalizing passed place entered with
  | zero =>
    rw [enter] at h
    split at h
    · cases h
    · exact Except.ok.inj h ▸ hplace
  | succ left ih =>
    rw [enter] at h
    split at h
    · exact Except.ok.inj h ▸ hplace
    · split at h
      · cases h
      · rename_i target _ _
        refine areSteps_follow (fun _ _ => ih _) ?_ (proper_ofText target).names h
        split
        · exact List.forall_mem_nil _
        · exact hplace.dropLast

theorem Proper.resolve (h : p.Proper) (hfolder : AreSteps env.folder)
    (hresolve : p.resolve env = .ok q) : q.Proper := by
  unfold Path.resolve at hresolve
  obtain ⟨_, -, hresolve⟩ := bind_eq_ok_iff.1 hresolve
  split at hresolve
  · rename_i names hfollow
    obtain rfl := Except.ok.inj hresolve
    refine ⟨Nat.le_succ 1, areSteps_follow (fun _ _ => areSteps_enter _ _) ?_ ?_ hfollow⟩
    · exact List.forall_mem_nil _
    · refine AreSteps.append ?_ h.names
      split
      · exact List.forall_mem_nil _
      · exact hfolder
  · cases hresolve

/-- What is resolved is absolute. -/
theorem isAbsolute_resolve (hresolve : p.resolve env = .ok q) : q.isAbsolute = true := by
  unfold Path.resolve at hresolve
  obtain ⟨_, -, hresolve⟩ := bind_eq_ok_iff.1 hresolve
  split at hresolve
  · obtain rfl := Except.ok.inj hresolve
    rfl
  · cases hresolve

-- two dots behind a link lead to the folder of its target
example : resolve { folder := ["work"], links := [(["work", "a"], "/x/y")] } ⟨0, ["a", "..", "z"]⟩
    = .ok ⟨1, ["x", "z"]⟩ := rfl

-- there is no way through links that lead to each other
example : resolve { links := [(["a"], "b"), (["b"], "a")] } ⟨0, ["a", "c"]⟩
    = .error (.linkLoop "/a/c") := by cbv

end Path

/-! ## 5. Paths in settings -/

namespace Settings

variable {env : Environment} {settings : Path} {raw resolved : String}

/-- A resolved path is the text of an absolute one. -/
theorem exists_of_resolvePath (hfolder : Path.AreSteps env.folder) (hsettings : settings.Proper)
    (h : resolvePath env settings raw = .ok resolved) :
    ∃ p : Path, p.Proper ∧ p.isAbsolute = true ∧ resolved = p.text := by
  unfold resolvePath at h
  obtain ⟨p, hexpand, h⟩ := bind_eq_ok_iff.1 h
  have hp : p.Proper := (Path.proper_ofText raw).expand hexpand
  split at h
  · rename_i habsolute
    exact ⟨p, hp, habsolute, (Except.ok.inj h).symm⟩
  · obtain ⟨place, hplace, h⟩ := bind_eq_ok_iff.1 h
    obtain ⟨q, hq, h⟩ := bind_eq_ok_iff.1 h
    have hproper := hsettings.resolve hfolder hplace
    have hfolder' : place.parent.Proper := ⟨hproper.slashes, hproper.names.dropLast⟩
    exact ⟨q, (hfolder'.append hp).resolve hfolder hq, Path.isAbsolute_resolve hq,
      (Except.ok.inj h).symm⟩

/-- **A path that has been resolved is left as it is.** -/
theorem resolvePath_again (hfolder : Path.AreSteps env.folder) (hsettings : settings.Proper)
    (h : resolvePath env settings raw = .ok resolved) :
    resolvePath env settings resolved = .ok resolved := by
  obtain ⟨p, hp, habsolute, rfl⟩ := exists_of_resolvePath hfolder hsettings h
  rw [resolvePath, Path.ofText_text hp, Path.expand_of_isAbsolute habsolute]
  simp [bind, Except.bind, habsolute, pure, Except.pure]

/-- It starts with a slash. -/
theorem head_resolvePath (hfolder : Path.AreSteps env.folder) (hsettings : settings.Proper)
    (h : resolvePath env settings raw = .ok resolved) : resolved.toList.head? = some '/' := by
  obtain ⟨p, -, habsolute, rfl⟩ := exists_of_resolvePath hfolder hsettings h
  have hpos : 0 < p.slashes := by simpa [Path.isAbsolute] using habsolute
  obtain ⟨n, hn⟩ := Nat.exists_eq_add_one.2 hpos
  rw [Path.toList_text (by omega), hn]
  rfl

end Settings
end Vesting
