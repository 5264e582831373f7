/-
# Which source a setting is taken from

Cluster, program and payer are each looked for in several sources, and the order of the sources is
theirs: the command line first, for the cluster the named clusters next, then the environment, the
settings, and for cluster and payer the configuration of the tools.  What is blank counts as unset.

The main result is about whole runs (`Target.resolve_by_precedence`).  A run ends with a target
exactly if the named cluster is known and each of the three is the first of its candidates that is
not blank, or the default.  It follows that nothing behind that candidate matters: two runs whose
candidates agree up to there give the same value (`Target.Agree.first?_eq`).

Two parts lead there.  What the settings and the tools contribute is traced back to what is
written in their files (`Target.Sources.first?_urls` and its siblings): the table of the settings
has been trimmed once before, and of several lines with one key the last counts.  And the places
that a run looks at besides leave no trace in it (`Target.run_resolve`).

A payer is a path, and the home folder in front of it is looked up among the variables and in the
user table.  So two runs agree about a payer only if they agree about homes, and a payer has a
fault of its own: the name of a user may hold U+0000.  A configuration of the tools that is no
text has no entries to choose from; all that is said of it is that the run breaks off.
-/
import Vesting.Settings.Files
import Vesting.Proofs.Session
import Vesting.Proofs.Settings

namespace Vesting

/-! ## 1. Blank texts and trimmed texts -/

namespace Text

/-- A text without anything but white space. -/
def Blank (s : String) : Prop := ∀ c ∈ s.toList, isBlank c = true

/-- `t` is what is left of `s` without the white space around it. -/
structure Trims (s t : String) : Prop where
  exists_eq : ∃ front back, s.toList = front ++ t.toList ++ back ∧
    (∀ c ∈ front, isBlank c = true) ∧ ∀ c ∈ back, isBlank c = true
  ne_empty : t ≠ ""
  head : ∀ c ∈ t.toList.head?, isBlank c = false
  last : ∀ c ∈ t.toList.getLast?, isBlank c = false

theorem trim_append {front mid back : List Char} (hfront : ∀ c ∈ front, isBlank c = true)
    (hback : ∀ c ∈ back, isBlank c = true) (hne : mid ≠ [])
    (hhead : ∀ c ∈ mid.head?, isBlank c = false) (hlast : ∀ c ∈ mid.getLast?, isBlank c = false) :
    trim (front ++ mid ++ back) = mid := by
  obtain ⟨c, rest, rfl⟩ := List.exists_cons_of_ne_nil hne
  have hstop {cs : List Char} : (c :: rest ++ cs).dropWhile isBlank = c :: rest ++ cs :=
    List.dropWhile_cons_of_neg (by simp [hhead c rfl])
  have hself : trim (c :: rest) = c :: rest := trimWhile_eq_self hhead hlast
  rw [trim, trimWhile, ← List.append_nil (c :: rest), hstop, List.append_nil] at hself
  rw [trim, trimWhile, List.append_assoc, List.dropWhile_append_of_pos hfront, hstop,
    List.reverse_append, List.dropWhile_append_of_pos (by simpa using hback), hself]

theorem nonBlank?_eq_some_iff_trims {s t : String} : nonBlank? s = some t ↔ Trims s t := by
  rw [nonBlank?_eq_some_iff]
  constructor
  · rintro ⟨ht, hne⟩
    obtain ⟨front, back, hs, hfront, hback⟩ := exists_trimWhile isBlank s.toList
    refine ⟨⟨front, back, ?_, hfront, hback⟩, hne, ?_, ?_⟩
    · rw [ht]
      exact hs
    · rw [ht]
      exact head_trimWhile _
    · rw [ht]
      exact last_trimWhile _
  · rintro ⟨⟨front, back, hs, hfront, hback⟩, hne, hhead, hlast⟩
    refine ⟨?_, hne⟩
    rw [hs, trim_append hfront hback (by simpa using hne) hhead hlast]

theorem nonBlank?_eq_none_iff {s : String} : nonBlank? s = none ↔ Blank s := by
  have htrim : trim s.toList = [] ↔ Blank s := by
    constructor
    · intro hnil
      obtain ⟨front, back, hs, hfront, hback⟩ := exists_trimWhile isBlank s.toList
      rw [← trim, hnil, List.append_nil] at hs
      rw [Blank, hs]
      exact fun c hc => (List.mem_append.1 hc).elim (hfront c) (hback c)
    · intro hblank
      rw [trim, trimWhile, List.dropWhile_eq_nil_iff.2 hblank]
      rfl
  rw [← htrim, nonBlank?, trimmed]
  simp [String.ofList_eq_empty_iff]

end Text

/-! ## 2. The first candidate that is not blank -/

namespace Target

/-- A candidate that is blank or unset. -/
def Absent (c : Option String) : Prop := ∀ s ∈ c, Text.Blank s

/-- The first of some candidates that is neither blank nor unset, without the white space around it;
nothing if there is none. -/
inductive First : List (Option String) → Option String → Prop
  | none : First [] none
  | skip {c cs t} (hc : Absent c) (h : First cs t) : First (c :: cs) t
  | take {s t cs} (h : Text.Trims s t) : First (some s :: cs) (some t)

/-- Candidates agree up to the first that is neither blank nor unset.  Behind it they may differ. -/
inductive Agree : List (Option String) → List (Option String) → Prop
  | nil : Agree [] []
  | skip {c c' cs cs'} (hc : Absent c) (hc' : Absent c') (h : Agree cs cs') :
    Agree (c :: cs) (c' :: cs')
  | take {s s' t cs cs'} (h : Text.Trims s t) (h' : Text.Trims s' t) :
    Agree (some s :: cs) (some s' :: cs')

variable {c : Option String} {cs cs' : List (Option String)} {s t : String}

theorem absent_iff : Absent c ↔ c.bind Text.nonBlank? = none := by
  cases c with
  | none => exact iff_of_true nofun rfl
  | some s =>
    rw [Option.bind_some, Text.nonBlank?_eq_none_iff]
    exact ⟨fun h => h s rfl, fun h _ hs => Option.some.inj hs ▸ h⟩

theorem first?_cons_of_absent (h : Absent c) : first? (c :: cs) = first? cs := by
  rw [first?, List.findSome?_cons, absent_iff.1 h]
  rfl

theorem first?_cons_of_trims (h : Text.Trims s t) : first? (some s :: cs) = some t := by
  rw [first?, List.findSome?_cons, Option.bind_some, Text.nonBlank?_eq_some_iff_trims.2 h]

/-- The search finds the first candidate. -/
theorem first_first? (cs : List (Option String)) : First cs (first? cs) := by
  induction cs with
  | nil => exact .none
  | cons c cs ih =>
    cases hc : c.bind Text.nonBlank? with
    | none =>
      rw [first?_cons_of_absent (absent_iff.2 hc)]
      exact .skip (absent_iff.2 hc) ih
    | some t =>
      obtain ⟨s, rfl, ht⟩ := Option.bind_eq_some_iff.1 hc
      have htrims := Text.nonBlank?_eq_some_iff_trims.1 ht
      rw [first?_cons_of_trims htrims]
      exact .take htrims

theorem First.first?_eq {t : Option String} (h : First cs t) : first? cs = t := by
  induction h with
  | none => rfl
  | skip hc _ ih => rw [first?_cons_of_absent hc, ih]
  | take ht => exact first?_cons_of_trims ht

theorem first_iff {t : Option String} : First cs t ↔ first? cs = t :=
  ⟨First.first?_eq, fun h => h ▸ first_first? cs⟩

/-- **What is behind the first candidate does not matter.** -/
theorem Agree.first?_eq (h : Agree cs cs') : first? cs = first? cs' := by
  induction h with
  | nil => rfl
  | skip hc hc' _ ih => rw [first?_cons_of_absent hc, first?_cons_of_absent hc', ih]
  | take ht ht' => rw [first?_cons_of_trims ht, first?_cons_of_trims ht']

/-! ## 3. The sources -/

/-- Everything that a choice depends on. -/
structure Sources where
  flags : Flags := {}
  env : Environment := {}
  /-- Where the settings are. -/
  path : Path := {}
  /-- The cluster table in the settings; where there are no settings, an empty one. -/
  table : Datum := .table []
  /-- The text of the tools' configuration. -/
  tools : List Char := []

/-- No cluster is named, or one that is known. -/
def Flags.Known (flags : Flags) : Prop :=
  ∀ name ∈ flags.cluster, name = "" ∨ ∃ url, (name, url) ∈ clusters

namespace Sources

/-- A text in the cluster table. -/
def setting (s : Sources) (name : String) : Option String :=
  match s.table.field? name with
  | some (.text value) => some value
  | _ => none

/-- The payer in the cluster table, trimmed, as a path seen from the settings. -/
def settingPath (s : Sources) : Option String :=
  ((s.setting "payer").bind Text.nonBlank?).bind fun raw =>
    (Settings.resolvePath s.env s.path raw).toOption

/-- What the last line with a key says in the tools' configuration. -/
def tool (s : Sources) (key : String) : Option String :=
  ((Text.lines s.tools).filterMap toolLine?).reverse.lookup key

/-- The candidates for the address of the cluster, those that go first in front. -/
def urls (s : Sources) : List (Option String) :=
  [s.flags.rpcUrl, s.flags.cluster.bind fun name => clusters.lookup name, s.env.get? urlVariable,
   s.setting "rpc_url", s.tool "json_rpc_url"]

/-- The candidates for the program. -/
def programs (s : Sources) : List (Option String) :=
  [s.flags.program, s.env.get? programVariable, s.setting "program_id"]

/-- The candidates for the payer. -/
def payers (s : Sources) : List (Option String) :=
  [s.flags.payer, s.env.get? payerVariable, s.settingPath, s.tool "keypair_path"]

/-- The target is made of the first candidates, or of the defaults. -/
structure Chooses (s : Sources) (t : Target) : Prop where
  url : ∃ u, First s.urls u ∧ t.rpcUrl = u.getD Settings.defaultUrl
  program : ∃ p, First s.programs p ∧ Key.ofText? (p.getD Key.vestingProgramText) = some t.program
  payer : ∃ q, First s.payers q ∧
    Option.Rel (fun raw text => ∃ p, (Path.ofText raw).expand s.env = .ok p ∧ text = p.text)
      q t.payer

/-- Why there is no target. -/
inductive Refuses (s : Sources) : Fault → Prop
  -- the payer is looked at before the program, so its faults hide those of the program
  | cluster {name} (hname : s.flags.cluster = some name) (hunknown : ¬ s.flags.Known) :
    Refuses s (.invalid (.unknownCluster name))
  | payer {raw why} (hknown : s.flags.Known) (hfirst : First s.payers (some raw))
    (hexpand : (Path.ofText raw).expand s.env = .error why) : Refuses s why
  | program {p} (hknown : s.flags.Known)
    (hpayer : ∀ raw, First s.payers (some raw) → ((Path.ofText raw).expand s.env).isOk)
    (hfirst : First s.programs (some p)) (hkey : Key.ofText? p = none) :
    Refuses s (.invalid (.badAddress "program_id" p))

end Sources
end Target

/-! ## 4. What the files contribute -/

theorem Datum.lookup_setEntry {α : Type} (key : String) (value : α) (entries : List (String × α))
    (name : String) :
    (setEntry key value entries).lookup name
      = if name = key then some value else entries.lookup name := by
  by_cases hname : name = key
  · rw [hname, lookup_setEntry_self, if_pos rfl]
  · rw [if_neg hname]
    induction entries with
    | nil => rw [setEntry, List.lookup_cons, beq_false_of_ne hname]
    | cons e rest ih =>
      obtain ⟨k, v⟩ := e
      by_cases hk : k = key
      · have hbeq : (name == k) = false := by simpa [hk] using hname
        rw [setEntry, if_pos hk, List.lookup_cons, List.lookup_cons, hbeq]
      · rw [setEntry, if_neg hk, List.lookup_cons, List.lookup_cons, ih]

namespace Target

/-- Of several lines with one key the last counts. -/
theorem lookup_toolEntries (text : List Char) (key : String) :
    (toolEntries text).lookup key
      = ((Text.lines text).filterMap toolLine?).reverse.lookup key := by
  have hrun (es entries : List (String × String)) :
      (es.foldl (fun entries e => Datum.setEntry e.1 e.2 entries) entries).lookup key
        = (es.reverse.lookup key).or (entries.lookup key) := by
    -- a later line is looked up first, and what was entered before comes last
    induction es generalizing entries with
    | nil => rfl
    | cons e es ih =>
      obtain ⟨k, v⟩ := e
      rw [List.foldl_cons, ih, List.reverse_cons, List.lookup_append, Option.or_assoc,
        Datum.lookup_setEntry]
      by_cases hk : key = k
      · simp [hk]
      · simp [List.lookup_cons, beq_false_of_ne hk, hk]
  rw [toolEntries, hrun, List.lookup_nil, Option.or_none]

/-- Candidates may be trimmed before. -/
theorem first?_congr {cs cs' : List (Option String)}
    (h : cs.map (Option.bind · Text.nonBlank?) = cs'.map (Option.bind · Text.nonBlank?)) :
    first? cs = first? cs' := by
  have hmap (cs : List (Option String)) :
      first? cs = (cs.map (Option.bind · Text.nonBlank?)).findSome? id := by
    rw [first?, List.findSome?_map]
    rfl
  rw [hmap, hmap, h]

namespace Sources

variable {s : Sources} {cluster : ClusterSettings} {name : String} {value : Option String}

theorem setting_of_clusterText (h : Settings.clusterText s.table name = .ok value) :
    (s.setting name).bind Text.nonBlank? = value := by
  unfold Settings.clusterText at h
  rw [setting]
  cases hfield : s.table.field? name with
  | none =>
    rw [hfield] at h
    exact Except.ok.inj h
  | some d =>
    rw [hfield] at h
    cases d with
    | null => exact Except.ok.inj h
    | text t =>
      dsimp only
      rw [Option.bind_some]
      exact Except.ok.inj h
    | _ => cases h

theorem settingPath_eq
    (h : Settings.readCluster s.env s.path s.table = .ok cluster) :
    s.settingPath = cluster.payer := by
  obtain ⟨-, -, raw, hraw, hresolve⟩ := Settings.readCluster_eq_ok_iff.1 h
  rw [settingPath, setting_of_clusterText hraw]
  cases raw with
  | none => exact Except.ok.inj hresolve
  | some raw =>
    cases hpath : Settings.resolvePath s.env s.path raw with
    | error why =>
      rw [Settings.resolvePath?, hpath] at hresolve
      cases hresolve
    | ok payer =>
      rw [Settings.resolvePath?, hpath] at hresolve
      rw [Option.bind_some, hpath]
      exact Except.ok.inj hresolve

theorem first?_urls (h : Settings.readCluster s.env s.path s.table = .ok cluster) :
    first? (urlCandidates s.env (toolEntries s.tools) cluster s.flags) = first? s.urls := by
  obtain ⟨hurl, -, -⟩ := Settings.readCluster_eq_ok_iff.1 h
  refine first?_congr ?_
  simp only [urlCandidates, namedUrl?, urls, List.map_cons, List.map_nil, tool, lookup_toolEntries,
    setting_of_clusterText hurl, Settings.bind_nonBlank? hurl]

theorem first?_programs (h : Settings.readCluster s.env s.path s.table = .ok cluster) :
    first? (programCandidates s.env cluster s.flags) = first? s.programs := by
  obtain ⟨-, hprogram, -⟩ := Settings.readCluster_eq_ok_iff.1 h
  refine first?_congr ?_
  simp only [programCandidates, programs, List.map_cons, List.map_nil,
    setting_of_clusterText hprogram, Settings.bind_nonBlank? hprogram]

theorem first?_payers (h : Settings.readCluster s.env s.path s.table = .ok cluster) :
    first? (payerCandidates s.env (toolEntries s.tools) cluster s.flags) = first? s.payers := by
  rw [payerCandidates, payers, settingPath_eq h, tool, lookup_toolEntries]

end Sources

/-! ## 5. The choice -/

theorem lookup_isNone_iff {name : String} :
    (clusters.lookup name).isNone = true ↔ ∀ url, (name, url) ∉ clusters := by
  rw [Option.isNone_iff_eq_none, List.lookup_eq_none_iff]
  constructor
  · intro h url hmem
    simpa using h _ hmem
  · rintro h ⟨k, url⟩ hmem
    rw [bne_iff_ne]
    rintro rfl
    exact h url hmem

theorem unknownCluster?_eq_none_iff {flags : Flags} :
    unknownCluster? flags = none ↔ flags.Known := by
  rw [unknownCluster?, Option.filter_eq_none_iff]
  refine forall_congr' fun name => imp_congr_right fun _ => ?_
  rw [Bool.and_eq_true, lookup_isNone_iff]
  by_cases hname : name = "" <;> simp [hname]

theorem unknownCluster?_eq_some_iff {flags : Flags} {name : String} :
    unknownCluster? flags = some name ↔ flags.cluster = some name ∧ ¬ flags.Known := by
  rw [← unknownCluster?_eq_none_iff]
  constructor
  · intro h
    exact ⟨(Option.filter_eq_some_iff.1 h).1, by rw [h]; nofun⟩
  · rintro ⟨hname, hunknown⟩
    obtain ⟨name', hname'⟩ := Option.ne_none_iff_exists'.1 hunknown
    obtain rfl : name' = name :=
      Option.some.inj ((Option.filter_eq_some_iff.1 hname').1.symm.trans hname)
    exact hname'

theorem payerPath_eq_ok_iff {env : Environment} {raw payer : Option String} :
    payerPath env raw = .ok payer ↔
      Option.Rel (fun raw text => ∃ p, (Path.ofText raw).expand env = .ok p ∧ text = p.text)
        raw payer := by
  cases raw with
  | none =>
    constructor
    · intro h
      cases h
      exact .none
    · intro h
      cases h
      rfl
  | some raw =>
    rw [payerPath, bind_eq_ok_iff]
    constructor
    · rintro ⟨p, hexpand, h⟩
      cases h
      exact .some ⟨p, hexpand, rfl⟩
    · rintro (⟨p, hexpand, rfl⟩ | _)
      exact ⟨p, hexpand, rfl⟩

theorem payerPath_eq_error_iff {env : Environment} {raw : Option String} {why : Fault} :
    payerPath env raw = .error why ↔
      ∃ text, raw = some text ∧ (Path.ofText text).expand env = .error why := by
  cases raw with
  | none => exact iff_of_false nofun nofun
  | some text =>
    rw [payerPath]
    cases hexpand : (Path.ofText text).expand env with
    | error why' => simp [bind, Except.bind, hexpand]
    | ok p => simp [bind, Except.bind, hexpand, pure, Except.pure]

theorem isOk_payerPath_iff {env : Environment} {raw : Option String} :
    (payerPath env raw).isOk = true ↔
      ∀ text ∈ raw, ((Path.ofText text).expand env).isOk = true := by
  cases raw with
  | none => exact iff_of_true rfl nofun
  | some text =>
    rw [payerPath]
    cases hexpand : (Path.ofText text).expand env <;>
      simp [bind, Except.bind, pure, Except.pure, Except.isOk, Except.toBool, hexpand]

theorem nonBlank?_of_first {cs : List (Option String)} {t : String} (h : First cs (some t)) :
    Text.nonBlank? t = some t := by
  obtain ⟨c, -, hc⟩ := List.exists_of_findSome?_eq_some h.first?_eq
  obtain ⟨s, -, ht⟩ := Option.bind_eq_some_iff.1 hc
  exact Text.nonBlank?_again ht

/-- The default is a key. -/
theorem exists_of_ofText?_eq_none {p : Option String}
    (h : Key.ofText? (p.getD Key.vestingProgramText) = none) : ∃ text, p = some text := by
  cases p with
  | some text => exact ⟨text, rfl⟩
  | none =>
    have hkey : (Key.ofText? Key.vestingProgramText).isSome = true := by decide +kernel
    exact absurd h (Option.isSome_iff_ne_none.1 hkey)

/-- The program is read as a key from the text that has been chosen. -/
theorem read_program {cs : List (Option String)} {p : Option String} (h : First cs p) :
    Key.read "program_id" (.text (p.getD Key.vestingProgramText)) =
      match Key.ofText? (p.getD Key.vestingProgramText) with
      | some key => .ok key
      | none => .error (.invalid (.badAddress "program_id" (p.getD Key.vestingProgramText))) := by
  have htext : Text.nonBlank? (p.getD Key.vestingProgramText)
      = some (p.getD Key.vestingProgramText) := by
    cases p with
    | none => decide +kernel
    | some t => exact nonBlank?_of_first h
  cases hkey : Key.ofText? (p.getD Key.vestingProgramText) with
  | some key => simp only [Key.read, htext, hkey]
  | none => simp only [Key.read, htext, hkey]

section Decided

variable {s : Sources} {cluster : ClusterSettings} {t : Target} {why : Fault}

/-- A named cluster comes first, then the payer, and the program last. -/
theorem choose_eq (h : Settings.readCluster s.env s.path s.table = .ok cluster) :
    choose s.env (toolEntries s.tools) cluster s.flags =
      match unknownCluster? s.flags with
      | some name => .error (.invalid (.unknownCluster name))
      | none =>
        let program := (first? s.programs).getD Key.vestingProgramText
        (payerPath s.env (first? s.payers)).bind fun payer =>
          match Key.ofText? program with
          | some key => .ok ⟨(first? s.urls).getD Settings.defaultUrl, key, payer⟩
          | none => .error (.invalid (.badAddress "program_id" program)) := by
  rw [choose, Sources.first?_urls h, Sources.first?_programs h, Sources.first?_payers h]
  cases unknownCluster? s.flags with
  | some name => rfl
  | none =>
    dsimp only
    rw [read_program (first_first? _)]
    refine congrArg (Except.bind _) (funext fun payer => ?_)
    cases Key.ofText? ((first? s.programs).getD Key.vestingProgramText) <;> rfl

theorem choose_eq_ok_iff (h : Settings.readCluster s.env s.path s.table = .ok cluster) :
    choose s.env (toolEntries s.tools) cluster s.flags = .ok t ↔ s.flags.Known ∧ s.Chooses t := by
  rw [choose_eq h, ← unknownCluster?_eq_none_iff]
  cases unknownCluster? s.flags with
  | some name => exact iff_of_false nofun fun h => nomatch h.1
  | none =>
    refine bind_eq_ok_iff.trans ⟨?_, ?_⟩
    · rintro ⟨payer, hpayer, hread⟩
      split at hread
      · rename_i key hkey
        cases hread
        exact ⟨rfl, ⟨_, first_first? _, rfl⟩, ⟨_, first_first? _, hkey⟩,
          ⟨_, first_first? _, payerPath_eq_ok_iff.1 hpayer⟩⟩
      · cases hread
    · rintro ⟨-, ⟨u, hu, hurl⟩, ⟨p, hp, hkey⟩, q, hq, hpayer⟩
      rw [hu.first?_eq, hp.first?_eq, hq.first?_eq, hkey, ← hurl]
      exact ⟨t.payer, payerPath_eq_ok_iff.2 hpayer, rfl⟩

/-- What breaks the choice off is one of the reasons there are. -/
theorem refuses_of_choose_eq (h : Settings.readCluster s.env s.path s.table = .ok cluster)
    (hfails : choose s.env (toolEntries s.tools) cluster s.flags = .error why) :
    s.Refuses why := by
  rw [choose_eq h] at hfails
  cases hunknown : unknownCluster? s.flags with
  | some name =>
    obtain ⟨hname, hunknown'⟩ := unknownCluster?_eq_some_iff.1 hunknown
    rw [hunknown] at hfails
    cases hfails
    exact .cluster hname hunknown'
  | none =>
    have hknown := unknownCluster?_eq_none_iff.1 hunknown
    rw [hunknown] at hfails
    dsimp only at hfails
    cases hpayer : payerPath s.env (first? s.payers) with
    | error why' =>
      obtain ⟨raw, hraw, hexpand⟩ := payerPath_eq_error_iff.1 hpayer
      rw [hpayer] at hfails
      cases hfails
      exact .payer hknown (first_iff.2 hraw) hexpand
    | ok payer =>
      have hpaths := isOk_payerPath_iff.1 (congrArg Except.isOk hpayer)
      rw [hpayer, Except.bind] at hfails
      split at hfails
      · cases hfails
      · rename_i hkey
        cases hfails
        obtain ⟨p, hp⟩ := exists_of_ofText?_eq_none hkey
        rw [hp, Option.getD_some] at hkey ⊢
        exact .program hknown (fun raw hraw => hpaths raw hraw.first?_eq) (first_iff.2 hp) hkey

/-- Each of the reasons breaks the choice off. -/
theorem Sources.Refuses.choose_eq (hrefuses : s.Refuses why)
    (h : Settings.readCluster s.env s.path s.table = .ok cluster) :
    choose s.env (toolEntries s.tools) cluster s.flags = .error why := by
  rw [Target.choose_eq h]
  cases hrefuses with
  | cluster hname hunknown => rw [unknownCluster?_eq_some_iff.2 ⟨hname, hunknown⟩]
  | payer hknown hfirst hexpand =>
    rw [unknownCluster?_eq_none_iff.2 hknown, hfirst.first?_eq]
    dsimp only
    rw [payerPath_eq_error_iff.2 ⟨_, rfl, hexpand⟩]
    rfl
  | program hknown hpayer hfirst hkey =>
    have hpaths : (payerPath s.env (first? s.payers)).isOk = true :=
      isOk_payerPath_iff.2 fun raw hraw => hpayer raw (first_iff.2 hraw)
    rw [unknownCluster?_eq_none_iff.2 hknown, hfirst.first?_eq]
    dsimp only
    rw [Option.getD_some, hkey]
    cases hpath : payerPath s.env (first? s.payers) with
    | ok payer => rfl
    | error why' =>
      rw [hpath] at hpaths
      cases hpaths

end Decided

end Target

/-! ## 6. Faults and homes of a payer -/

/-- A path starts with the name of a user that has U+0000 in it. -/
def Path.NamesNul (p : Path) : Prop :=
  p.slashes = 0 ∧ ∃ name rest, p.names = name :: rest ∧ name.toList.head? = some '~' ∧
    '\x00' ∈ name.toList

theorem Path.expand_eq_error {env : Environment} {p : Path} {why : Fault}
    (h : expand env p = .error why) : why = .noHome ∨ why = .invalid .nullByte ∧ p.NamesNul := by
  obtain ⟨slashes, names⟩ := p
  unfold expand at h
  split at h
  · rename_i first rest hslashes hnames
    split at h
    · rename_i htilde
      split at h
      · cases h
        by_cases hname : isName first = true
        · exact .inl (if_pos hname)
        · refine .inr ⟨if_neg hname, hslashes, first, rest, hnames, htilde, ?_⟩
          simpa [isName] using hname
      · dsimp only at h
        split at h
        · cases h
          exact .inl rfl
        · cases h
    · cases h
  · cases h

/-- In two environments names lead to the same homes. -/
def Environment.SameHomes (env env' : Environment) : Prop :=
  ∀ name, env.home? name = env'.home? name

theorem Path.expand_congr {env env' : Environment} (h : env.SameHomes env') (p : Path) :
    expand env p = expand env' p := by
  simp only [expand, h _]

namespace Target

theorem payerPath_congr {env env' : Environment} (h : env.SameHomes env') (raw : Option String) :
    payerPath env raw = payerPath env' raw := by
  cases raw with
  | none => rfl
  | some text => rw [payerPath, payerPath, Path.expand_congr h]

namespace Sources

variable {s s' : Sources} {t t' : Target} {why : Fault}

/-- A fault of a value has one of three reasons. -/
theorem Refuses.reason (h : s.Refuses why) (hvalue : why.isValue = true) :
    ¬ s.flags.Known ∨ (∃ p, First s.programs (some p) ∧ Key.ofText? p = none) ∨
      ∃ raw, First s.payers (some raw) ∧ (Path.ofText raw).NamesNul := by
  cases h with
  | cluster hname hunknown => exact .inl hunknown
  | payer hknown hfirst hexpand =>
    rcases Path.expand_eq_error hexpand with rfl | ⟨-, hnul⟩
    · cases hvalue
    · exact .inr (.inr ⟨_, hfirst, hnul⟩)
  | program hknown hpayer hfirst hkey => exact .inr (.inl ⟨_, hfirst, hkey⟩)

/-- A value depends on its own candidates only, and on those only up to the first. -/
theorem Chooses.eq_of_agree (h : s.Chooses t) (h' : s'.Chooses t') :
    (Agree s.urls s'.urls → t.rpcUrl = t'.rpcUrl) ∧
    (Agree s.programs s'.programs → t.program = t'.program) ∧
    (Agree s.payers s'.payers → s.env.SameHomes s'.env → t.payer = t'.payer) := by
  obtain ⟨⟨u, hu, hurl⟩, ⟨p, hp, hprogram⟩, q, hq, hpayer⟩ := h
  obtain ⟨⟨u', hu', hurl'⟩, ⟨p', hp', hprogram'⟩, q', hq', hpayer'⟩ := h'
  refine ⟨fun hagree => ?_, fun hagree => ?_, fun hagree hhomes => ?_⟩
  · obtain rfl : u = u' := hu.first?_eq.symm.trans (hagree.first?_eq.trans hu'.first?_eq)
    exact hurl.trans hurl'.symm
  · obtain rfl : p = p' := hp.first?_eq.symm.trans (hagree.first?_eq.trans hp'.first?_eq)
    exact Option.some.inj (hprogram.symm.trans hprogram')
  · obtain rfl : q = q' := hq.first?_eq.symm.trans (hagree.first?_eq.trans hq'.first?_eq)
    have hpath := payerPath_eq_ok_iff.2 hpayer
    rw [payerPath_congr hhomes, payerPath_eq_ok_iff.2 hpayer'] at hpath
    exact (Except.ok.inj hpath).symm

end Sources
end Target

/-! ## 7. The run -/

/-- The text of a file. -/
def Machine.textAt (m : Machine) (p : Path) : Except Fault (List Char) := do
  p.check
  let data ← (m.files.read m.env p).mapError fun why => .file why p.text
  match String.fromUTF8? ⟨data.toArray⟩ with
  | some s => .ok (Text.unifyLines s.toList)
  | none => .error .notUtf8

/-- The text of the tools' configuration; of a file that cannot be read, an empty one. -/
def Machine.toolText (m : Machine) : Except Fault (List Char) := do
  let p ← Target.toolPath m.env
  match m.textAt p with
  | .error (.file ..) => .ok []
  | result => result

open Session

/-- Reading a file leaves the environment as it is. -/
theorem Session.run_readBytes (p : Path) (m : Machine) :
    ∃ m', m'.env = m.env ∧ (readBytes p).run.run m =
      (p.check.bind fun _ => (m.files.read m.env p).mapError fun why => .file why p.text, m') := by
  rw [readBytes, run_bind, run_orFail]
  cases p.check with
  | error why => exact ⟨m, rfl, rfl⟩
  | ok u =>
    -- that the place has been looked at makes no difference to what is read there
    let seen : Machine := { m with looked := p.fromRoot m.env :: m.looked }
    have hlook : (look p).run.run m = (.ok (), seen) := rfl
    have hget : (get : Session Machine).run.run seen = (.ok seen, seen) := rfl
    refine ⟨seen, rfl, ?_⟩
    dsimp only [Except.bind]
    rw [run_bind, hlook]
    dsimp only
    rw [run_bind, hget]
    dsimp only [seen]
    cases m.files.read m.env p <;> rfl

theorem Session.run_readText (p : Path) (m : Machine) :
    ∃ m', m'.env = m.env ∧ (readText p).run.run m = (m.textAt p, m') := by
  obtain ⟨m', henv, hread⟩ := run_readBytes p m
  refine ⟨m', henv, ?_⟩
  rw [readText, run_bind, hread, Machine.textAt]
  dsimp only [bind]
  cases p.check with
  | error why => rfl
  | ok u =>
    dsimp only [Except.bind]
    cases m.files.read m.env p with
    | error why => rfl
    | ok data =>
      dsimp only [Except.mapError]
      cases String.fromUTF8? ⟨data.toArray⟩ <;> rfl

namespace Target

theorem run_loadTools (m : Machine) :
    ∃ m', m'.env = m.env ∧ loadTools.run.run m = (m.toolText.map toolEntries, m') := by
  have henv : env.run.run m = (.ok m.env, m) := rfl
  rw [loadTools, run_bind, henv, Machine.toolText]
  dsimp only
  rw [run_bind, run_orFail]
  cases toolPath m.env with
  | error why => exact ⟨m, rfl, rfl⟩
  | ok p =>
    obtain ⟨m', henv', hread⟩ := run_readText p m
    refine ⟨m', henv', ?_⟩
    dsimp only
    rw [run_bind, run_tryCatch, hread]
    dsimp only [bind, Except.bind]
    cases m.textAt p with
    | ok text => rfl
    | error why => cases why <;> rfl

/-- **Of all that a run looks at, only the text of the tools' configuration counts.** -/
theorem run_resolve (m : Machine) (settings : Option Settings) (flags : Flags) :
    ((resolve settings flags).run.run m).1 = m.toolText.bind fun text =>
      choose m.env (toolEntries text) ((settings.map Settings.cluster).getD {}) flags := by
  obtain ⟨m', henv, hrun⟩ := run_loadTools m
  rw [resolve, run_bind, hrun]
  cases m.toolText with
  | error why => rfl
  | ok text =>
    rw [← henv]
    dsimp only [Except.map, Except.bind]
    generalize (settings.map Settings.cluster).getD {} = cluster
    change ((orFail (choose m'.env (toolEntries text) cluster flags)).run.run m').1 = _
    rw [run_orFail]

/-- A run on the machine, with these settings, has these sources. -/
structure Sources.Feed (s : Sources) (m : Machine) (settings : Option Settings) : Prop where
  env_eq : m.env = s.env
  cluster : Settings.readCluster s.env s.path s.table
    = .ok ((settings.map Settings.cluster).getD {})
  tools : m.toolText = .ok s.tools

theorem Sources.Feed.run_eq {s : Sources} {m : Machine} {settings : Option Settings}
    (h : s.Feed m settings) : ((resolve settings s.flags).run.run m).1
      = choose s.env (toolEntries s.tools) ((settings.map Settings.cluster).getD {}) s.flags := by
  rw [run_resolve, h.tools, h.env_eq]
  rfl

/-! ## 8. Main result -/

/-- **Settings are chosen by the order of their sources.**  A run ends with a target exactly if no
unknown cluster is named and the target is made of the first candidates that are not blank.  If it
breaks off with a fault of a value, then a cluster is named that is unknown, or the first
candidate for the program is no key, or the first one for the payer names a user with U+0000.  Two
runs with candidates that agree up to the first end with the same value, whatever else differs; of
a payer, if names lead to the same homes.  A run that does not get at the text of the tools'
configuration has no such sources: it breaks off with the fault that it has met there. -/
theorem resolve_by_precedence {s : Sources} {m : Machine} {settings : Option Settings}
    (h : s.Feed m settings) :
    let run := ((resolve settings s.flags).run.run m).1
    (∀ t, run = .ok t ↔ s.flags.Known ∧ s.Chooses t) ∧
    (∀ why, run = .error why ↔ s.Refuses why) ∧
    (∀ why, run = .error why → why.isValue = true →
      ¬ s.flags.Known ∨ (∃ p, First s.programs (some p) ∧ Key.ofText? p = none) ∨
        ∃ raw, First s.payers (some raw) ∧ (Path.ofText raw).NamesNul) ∧
    (∀ {s' : Sources} {m' : Machine} {settings' : Option Settings}, s'.Feed m' settings' →
      ∀ t t', run = .ok t → ((resolve settings' s'.flags).run.run m').1 = .ok t' →
        (Agree s.urls s'.urls → t.rpcUrl = t'.rpcUrl) ∧
        (Agree s.programs s'.programs → t.program = t'.program) ∧
        (Agree s.payers s'.payers → s.env.SameHomes s'.env → t.payer = t'.payer)) ∧
    ∀ (m' : Machine) (why : Fault), m'.toolText = .error why →
      ((resolve settings s.flags).run.run m').1 = .error why := by
  intro run
  have hok (t : Target) : run = .ok t ↔ s.flags.Known ∧ s.Chooses t := by
    rw [← choose_eq_ok_iff h.cluster, ← h.run_eq]
  have herror (why : Fault) : run = .error why ↔ s.Refuses why :=
    ⟨fun hwhy => refuses_of_choose_eq h.cluster (h.run_eq ▸ hwhy),
      fun hrefuses => h.run_eq.trans (hrefuses.choose_eq h.cluster)⟩
  refine ⟨hok, herror, fun why hwhy hvalue => ((herror why).1 hwhy).reason hvalue, ?_, ?_⟩
  · intro s' m' settings' h' t t' ht ht'
    rw [h'.run_eq, choose_eq_ok_iff h'.cluster] at ht'
    exact ((hok t).1 ht).2.eq_of_agree ht'.2
  · intro m' why hwhy
    rw [run_resolve, hwhy]
    rfl

end Target

namespace Sample

/-- Blanks in front of what the tools say, which say it twice. -/
def blanks : Target.Sources where
  flags := { rpcUrl := some " ", cluster := some "" }
  env := {
    bindings := [("SOLANA_CONFIG", "cli.yml"), ("VESTING_RPC_URL", "")]
    ownHome := some "/home/u" }
  path := Path.ofText "/c/vesting.toml"
  table := .table [("rpc_url", .text "\t"), ("payer", .null)]
  tools := "json_rpc_url: http://one\njson_rpc_url: 'http://two'\nkeypair_path: ~/id.json\n".toList

/-- A machine with these variables and a configuration of the tools. -/
def tooled (env : Environment) (tools : String) : Machine where
  env
  files := { entries := [(["cli.yml"], .file tools.toUTF8.toList)] }

/-- The tools name a payer whose user has U+0000 in its name. -/
def nulUser : Machine :=
  tooled { bindings := [("SOLANA_CONFIG", "cli.yml")] } "keypair_path: ~a\x00b/id.json\n"

end Sample

/-- What is blank on the command line, in the environment and in the settings hides nothing.  The
home folder of the payer is that of the user table. -/
theorem Target.resolve_by_precedence_blanks :
    let m := Sample.tooled Sample.blanks.env (String.ofList Sample.blanks.tools)
    let settings := some { path := Sample.blanks.path }
    Sample.blanks.Feed m settings ∧
      ((resolve settings Sample.blanks.flags).run.run m).1
        = .ok ⟨"http://two", Key.vestingProgram, some "/home/u/id.json"⟩ := by
  intro m settings
  have hfeed : Sample.blanks.Feed m settings := ⟨rfl, by decide +kernel, by decide +kernel⟩
  obtain ⟨hok, -⟩ := resolve_by_precedence hfeed
  have hknown : Sample.blanks.flags.Known := by
    rintro name hname
    exact .inl (Option.some.inj hname).symm
  have hurl : First Sample.blanks.urls (some "http://two") := first_iff.2 (by decide +kernel)
  have hprogram : First Sample.blanks.programs none := first_iff.2 (by decide +kernel)
  have hpayer : First Sample.blanks.payers (some "~/id.json") := first_iff.2 (by decide +kernel)
  refine ⟨hfeed, (hok _).2 ⟨hknown, ⟨_, hurl, rfl⟩, ⟨_, hprogram, ?_⟩, _, hpayer, .some ?_⟩⟩
  · decide +kernel
  · exact ⟨Path.ofText "/home/u/id.json", by decide +kernel, by decide +kernel⟩

/-- Without a named cluster, and with the default program, a payer breaks the choice off with a
fault of a value.  And one and the same candidate for a payer leads to two homes. -/
theorem Target.payer_depends_on_homes :
    (∀ c ∈ ({ env := Sample.nulUser.env } : Sources).programs, Absent c) ∧
    ((resolve none {}).run.run Sample.nulUser).1 = .error (.invalid .nullByte) ∧
    (Fault.invalid .nullByte).isValue = true ∧
    let payerAt (home : String) := ((resolve none { payer := some "~/id.json" }).run.run
      (Sample.tooled { bindings := [("HOME", home)] } "")).1.map Target.payer
    payerAt "/a" = .ok (some "/a/id.json") ∧ payerAt "/b" = .ok (some "/b/id.json") := by
  refine ⟨?_, by decide +kernel, rfl, by decide +kernel, by decide +kernel⟩
  intro c hc
  have hunset : c = none := by
    revert c
    decide +kernel
  rw [hunset]
  exact nofun

end Vesting
