/-
# Settings that are written are read again

Settings are read into one form.  White space is cut off, what is blank or empty is absent, a path
becomes absolute, and a number may have been the text of one.  They are written by other code,
with its own notion of what is absent.  The two fit together: settings that have been read and are
written are the same settings when they are read again (`Settings.read_toDatum`).

So reading has to leave its own results as they are.  For a text of the cluster this is that
trimming twice is trimming once, for a path that it has been resolved
(`Settings.resolvePath_again`), for a key and for a number that they are read back from what is
written of them.

The payer is subject to two of these.  It is a text of the cluster and it is a path, and it is
trimmed first and resolved afterwards.  A home folder may end in white space, and then so may the
result, which would be cut off by the next reading.  This has to be excluded, and nothing else.
-/
import Vesting.Proofs.Base58
import Vesting.Proofs.Path
import Vesting.Proofs.Schedules

namespace Vesting

variable {env : Environment} {path : Path} {table data : Datum} {name : String}
  {value : Option String} {why : Invalid}

/-! ## 1. Parts of a table -/

theorem Datum.lookup_optional (key : String) (value : Option String) (name : String) :
    (optional key value).lookup name = if name = key then value.map text else none := by
  cases value with
  | none => simp [optional]
  | some s =>
    by_cases h : name = key
    · simp [optional, h]
    · have hbeq : (name == key) = false := by simpa using h
      simp [optional, List.lookup_cons, hbeq, h]

theorem ClusterSettings.field?_toDatum (c : ClusterSettings) :
    c.toDatum.field? "rpc_url" = c.rpcUrl.map .text ∧
      c.toDatum.field? "program_id" = c.program.map .text ∧
      c.toDatum.field? "payer" = c.payer.map .text := by
  simp [toDatum, Datum.field?, List.lookup_append, Datum.lookup_optional]

theorem ContractSettings.field?_toDatum (c : ContractSettings) :
    c.toDatum.field? "seed" = c.seed.map .text ∧
      c.toDatum.field? "mint" = (c.mint.map Key.text).map .text ∧
      c.toDatum.field? "destination" = (c.destination.map Key.text).map .text ∧
      c.toDatum.field? "source" = (c.source.map Key.text).map .text ∧
      c.toDatum.field? "source_owner" = c.sourceOwner.map .text := by
  simp [toDatum, Datum.field?, List.lookup_append, Datum.lookup_optional]

/-- Tranches that are written are read again. -/
theorem Tranche.readAll_toDatum (ts : List Tranche) :
    readAll (.list (ts.map toDatum)) = .ok ts := by
  refine readAll_eq_ok_iff.2 (.inr ⟨_, rfl, ?_⟩)
  induction ts with
  | nil => exact .nil
  | cons t ts ih => exact .cons ⟨⟨_, rfl⟩, .int _, .int _⟩ ih

namespace Settings

theorem clusterText_eq (h : table.field? name = value.map .text) :
    clusterText table name = .ok (value.bind Text.nonBlank?) := by
  rw [clusterText, h]
  cases value with
  | none => rfl
  | some s => rw [Option.bind_some, Option.map_some, Option.getD_some]

/-- A text of the cluster is left as it is. -/
theorem bind_nonBlank? (h : clusterText table name = .ok value) :
    value.bind Text.nonBlank? = value := by
  cases value with
  | none => rfl
  | some t =>
    unfold clusterText at h
    split at h
    · cases h
    · rw [Option.bind_some]
      exact Text.nonBlank?_again (Except.ok.inj h)
    · cases h

theorem contractText_eq (h : table.field? name = value.map .text) (hne : ∀ s ∈ value, s ≠ "") :
    contractText table name why = .ok value := by
  rw [contractText, h]
  cases value with
  | none => rfl
  | some s => simp [hne s rfl]

theorem ne_empty_of_contractText (h : contractText table name why = .ok value) :
    ∀ s ∈ value, s ≠ "" := by
  rintro s rfl rfl
  unfold contractText at h
  split at h
  · cases h
  · split at h
    · cases h
    · rename_i hempty
      obtain rfl := Option.some.inj (Except.ok.inj h)
      exact hempty rfl
  · cases h

theorem contractKey_eq {key : Option Key} (h : table.field? name = (key.map Key.text).map .text) :
    contractKey table name = .ok key := by
  rw [contractKey, h]
  cases key with
  | none => rfl
  | some k =>
    simp only [Option.map_some, Option.getD_some]
    split
    · rename_i hnull
      cases hnull
    · rename_i hempty
      exact absurd (Datum.text.inj hempty) k.text_ne_empty
    · rw [Key.read_text]
      rfl

/-! ## 2. Paths that may be absent -/

/-- A path that has been resolved is left as it is. -/
theorem resolvePath?_again {raw : Option String} (hfolder : Path.AreSteps env.folder)
    (hpath : path.Proper) (h : resolvePath? env path raw = .ok value) :
    resolvePath? env path value = .ok value ∧ ∀ s ∈ value, s.toList.head? = some '/' := by
  cases raw with
  | none =>
    obtain rfl := Except.ok.inj h
    exact ⟨rfl, nofun⟩
  | some raw =>
    cases hresolve : resolvePath env path raw with
    | error why =>
      rw [resolvePath?, hresolve] at h
      cases h
    | ok resolved =>
      rw [resolvePath?, hresolve] at h
      obtain rfl := Except.ok.inj h
      refine ⟨?_, fun s hs => ?_⟩
      · rw [resolvePath?, resolvePath_again hfolder hpath hresolve]
        rfl
      · obtain rfl := Option.some.inj hs
        exact head_resolvePath hfolder hpath hresolve

/-! ## 3. Settings -/

variable {cluster : ClusterSettings} {contract : ContractSettings} {settings : Settings}

theorem readCluster_eq_ok_iff : readCluster env path table = .ok cluster ↔
    clusterText table "rpc_url" = .ok cluster.rpcUrl ∧
      clusterText table "program_id" = .ok cluster.program ∧
      ∃ payer, clusterText table "payer" = .ok payer ∧
        resolvePath? env path payer = .ok cluster.payer := by
  obtain ⟨rpcUrl, program, payer⟩ := cluster
  simp only [readCluster, bind_eq_ok_iff, pure, Except.pure, Except.ok.injEq,
    ClusterSettings.mk.injEq]
  constructor
  · rintro ⟨_, hurl, _, hprogram, raw, hraw, _, hpayer, rfl, rfl, rfl⟩
    exact ⟨hurl, hprogram, raw, hraw, hpayer⟩
  · rintro ⟨hurl, hprogram, raw, hraw, hpayer⟩
    exact ⟨_, hurl, _, hprogram, raw, hraw, _, hpayer, rfl, rfl, rfl⟩

theorem readContract_eq_ok_iff {schedules : Datum} :
    readContract env path table schedules = .ok contract ↔
      contractText table "seed" .seedNotText = .ok contract.seed ∧
      contractKey table "mint" = .ok contract.mint ∧
      contractKey table "destination" = .ok contract.destination ∧
      contractKey table "source" = .ok contract.source ∧
      (∃ owner, contractText table "source_owner" .ownerNotPath = .ok owner ∧
        resolvePath? env path owner = .ok contract.sourceOwner) ∧
      Tranche.readAll schedules = .ok contract.tranches := by
  obtain ⟨seed, mint, destination, source, sourceOwner, tranches⟩ := contract
  simp only [readContract, bind_eq_ok_iff, pure, Except.pure, Except.ok.injEq,
    ContractSettings.mk.injEq]
  constructor
  · rintro ⟨_, hseed, owner, howner, _, hmint, _, hdestination, _, hsource, _, hresolve, _,
      htranches, rfl, rfl, rfl, rfl, rfl, rfl⟩
    exact ⟨hseed, hmint, hdestination, hsource, ⟨owner, howner, hresolve⟩, htranches⟩
  · rintro ⟨hseed, hmint, hdestination, hsource, ⟨owner, howner, hresolve⟩, htranches⟩
    exact ⟨_, hseed, owner, howner, _, hmint, _, hdestination, _, hsource, _, hresolve, _,
      htranches, rfl, rfl, rfl, rfl, rfl, rfl⟩

/-- The cluster table is read again, if nothing is cut off from the payer. -/
theorem readCluster_toDatum (hfolder : Path.AreSteps env.folder) (hpath : path.Proper)
    (h : readCluster env path table = .ok cluster)
    (hpayer : ∀ s ∈ cluster.payer, ∀ c ∈ s.toList.getLast?, Text.isBlank c = false) :
    readCluster env path cluster.toDatum = .ok cluster := by
  obtain ⟨hurl, hprogram, raw, -, hresolve⟩ := readCluster_eq_ok_iff.1 h
  obtain ⟨hagain, hhead⟩ := resolvePath?_again hfolder hpath hresolve
  have hkept : cluster.payer.bind Text.nonBlank? = cluster.payer := by
    cases hvalue : cluster.payer with
    | none => rfl
    | some s =>
      have hslash := hhead s hvalue
      rw [Option.bind_some]
      refine Text.nonBlank?_eq_self ?_ ?_ (hpayer s hvalue)
      · rintro rfl
        cases hslash
      · rw [hslash]
        rintro c hc
        obtain rfl := Option.some.inj hc
        decide
  obtain ⟨hurl', hprogram', hpayer'⟩ := cluster.field?_toDatum
  refine readCluster_eq_ok_iff.2 ⟨?_, ?_, cluster.payer, ?_, hagain⟩
  · rw [clusterText_eq hurl', bind_nonBlank? hurl]
  · rw [clusterText_eq hprogram', bind_nonBlank? hprogram]
  · rw [clusterText_eq hpayer', hkept]

/-- The contract table is read again, with the schedules beside it. -/
theorem readContract_toDatum {schedules : Datum} (hfolder : Path.AreSteps env.folder)
    (hpath : path.Proper) (h : readContract env path table schedules = .ok contract) :
    readContract env path contract.toDatum (.list (contract.tranches.map Tranche.toDatum))
      = .ok contract := by
  obtain ⟨hseed, -, -, -, ⟨owner, -, hresolve⟩, -⟩ := readContract_eq_ok_iff.1 h
  obtain ⟨hagain, hhead⟩ := resolvePath?_again hfolder hpath hresolve
  have howner : ∀ s ∈ contract.sourceOwner, s ≠ "" := by
    rintro s hs rfl
    cases hhead _ hs
  obtain ⟨hseed', hmint', hdestination', hsource', howner'⟩ := contract.field?_toDatum
  exact readContract_eq_ok_iff.2 ⟨contractText_eq hseed' (ne_empty_of_contractText hseed),
    contractKey_eq hmint', contractKey_eq hdestination', contractKey_eq hsource',
    ⟨_, contractText_eq howner' howner, hagain⟩, Tranche.readAll_toDatum _⟩

theorem read_eq_ok_iff : read env path data = .ok settings ↔
    (∃ entries, data = .table entries) ∧ settings.path = path ∧
      readCluster env path (section? data "cluster") = .ok settings.cluster ∧
      readContract env path (section? data "contract") ((data.field? "schedules").getD .null)
        = .ok settings.contract := by
  obtain ⟨path', cluster, contract⟩ := settings
  cases data with
  | table entries =>
    simp only [read, bind_eq_ok_iff, pure, Except.pure, Except.ok.injEq, Settings.mk.injEq]
    constructor
    · rintro ⟨_, hcluster, _, hcontract, rfl, rfl, rfl⟩
      exact ⟨⟨_, rfl⟩, rfl, hcluster, hcontract⟩
    · rintro ⟨-, rfl, hcluster, hcontract⟩
      exact ⟨_, hcluster, _, hcontract, rfl, rfl, rfl⟩
  | _ => exact iff_of_false nofun fun h => nomatch h.1

/-- **Settings that have been read are read again from what is written of them.**  All that is asked
is that white space at the end of a payer is not a part of its name. -/
theorem read_toDatum (hfolder : Path.AreSteps env.folder) (name : String) (data : Datum)
    (h : read env (Path.ofText name) data = .ok settings)
    (hpayer : ∀ s ∈ settings.cluster.payer, ∀ c ∈ s.toList.getLast?, Text.isBlank c = false) :
    read env (Path.ofText name) settings.toDatum = .ok settings := by
  obtain ⟨-, hpath, hcluster, hcontract⟩ := read_eq_ok_iff.1 h
  have hproper := Path.proper_ofText name
  exact read_eq_ok_iff.2 ⟨⟨_, rfl⟩, hpath, readCluster_toDatum hfolder hproper hcluster hpayer,
    readContract_toDatum hfolder hproper hcontract⟩

end Settings

namespace Sample

/-- A system whose user table knows a home folder, and where the folder of the settings is a link.
-/
def system : Environment where
  ownHome := some "/home/u/"
  folder := ["work"]
  links := [(["work", "conf"], "/srv//conf")]

/-- Settings with blanks, with paths of several kinds, and with numbers as texts. -/
def rawSettings : Datum :=
  .table [("cluster", .table [("rpc_url", .text " localhost\n"), ("program_id", .text "  "),
      ("payer", .text "~//keys/./id.json")]),
    ("contract", .table [("seed", .text " s"), ("mint", .text (Key.zero.text ++ " ")),
      ("source", .text ""), ("source_owner", .text "../owner.json")]),
    ("schedules", .list [.table [("release_time", .text "0x10"), ("amount", .int 5)],
      .table [("amount", .text " 1_0 "), ("release_time", .int 7)]])]

/-- What is read of them. -/
def cleanSettings : Settings where
  path := Path.ofText "conf/vesting.toml"
  cluster := { rpcUrl := some "localhost", payer := some "/home/u/keys/id.json" }
  contract := {
    seed := some " s"
    mint := some Key.zero
    sourceOwner := some "/srv/owner.json"
    tranches := [⟨16, 5⟩, ⟨7, 10⟩] }

end Sample

/-- The home folder is that of the user table, and the two dots lead to the folder of the target. -/
theorem Settings.read_toDatum_mixed :
    read Sample.system (Path.ofText "conf/vesting.toml") Sample.rawSettings
      = .ok Sample.cleanSettings ∧
    read Sample.system (Path.ofText "conf/vesting.toml") Sample.cleanSettings.toDatum
      = .ok Sample.cleanSettings := by
  have hread : read Sample.system (Path.ofText "conf/vesting.toml") Sample.rawSettings
      = .ok Sample.cleanSettings := by rfl
  have hfolder : Path.AreSteps Sample.system.folder := by decide
  have hpayer : ∀ s ∈ Sample.cleanSettings.cluster.payer, ∀ c ∈ s.toList.getLast?,
      Text.isBlank c = false := by
    rintro s hs c hc
    obtain rfl := Option.some.inj hs
    have hlast : "/home/u/keys/id.json".toList.getLast? = some 'n' := by decide
    obtain rfl : 'n' = c := Option.some.inj (hlast.symm.trans hc)
    decide
  have hagain := read_toDatum hfolder "conf/vesting.toml" Sample.rawSettings hread hpayer
  exact ⟨hread, hagain⟩

end Vesting
