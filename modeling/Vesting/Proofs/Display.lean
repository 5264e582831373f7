/-
# What the viewer's summary says and what its table shows

A viewer shows a result in two places.  The summary says what has been loaded or simulated, or that
nothing has been loaded, and the table lists the tranches.  The actions write the two one after the
other, and not every action writes both: a reload that fails changes the summary, a simulation that
fails changes neither.

To say what should be seen, a course is kept beside the viewer (`Course`): what the summary is
about, and the latest result that there was.  It depends on the outcomes of the actions and on
nothing that is shown.  The argument is an invariant (`Course.Follows`): the summary is that of
the course, and the table is that of the latest result, whatever happens between the actions to
files, cluster and clock.

So the two agree after every action that succeeds and after every one that leaves both alone.
They part where a reload fails after a result with tranches: the rows of that result stay under a
summary that says that there is none (`Viewer.shown_together`, `Viewer.rows_left_behind`).
-/
import Vesting.Proofs.Simulation
import Vesting.Viewer

namespace Vesting

/-! ## 1. What there is to show -/

/-- A result that the viewer has to show, and the time for which it was asked. -/
inductive Exhibit
  | loaded (now : Int) (l : Loaded)
  | simulated (now : Int) (s : Simulation)

namespace Exhibit

def now : Exhibit → Int
  | loaded now _ | simulated now _ => now

def tranches : Exhibit → List Tranche
  | loaded _ l => l.contract.tranches
  | simulated _ s => s.tranches

def summary : Exhibit → String
  | loaded now l => Viewer.loadedSummary now l
  | simulated now s => Viewer.simulationSummary now s

/-- The lines of the table: every tranche at its place. -/
def rows (e : Exhibit) : List Row :=
  e.tranches.mapIdx fun i t =>
    ⟨i, t.releaseTime.toNat, t.amount.toNat,
      Row.statusOf e.now t.releaseTime.toNat t.amount.toNat⟩

theorem rows_eq (e : Exhibit) : Row.ofTranches e.now e.tranches = e.rows := by
  refine List.ext_getElem? fun i => ?_
  simp only [Row.ofTranches, Row.ofPairs, rows, List.getElem?_mapIdx, List.getElem?_map,
    Option.map_map, Function.comp_def]

theorem rows_eq_nil_iff (e : Exhibit) : e.rows = [] ↔ e.tranches = [] := by
  rw [rows, List.mapIdx_eq_nil_iff]

/-- Summaries of results start with the name of an address. -/
theorem exists_summary_eq (e : Exhibit) : ∃ rest, e.summary = "[#8892a4]" ++ rest := by
  have hlabel (name : String) :
      Viewer.label name = "[#8892a4]" ++ (name ++ ":" ++ "[/]" ++ " ") := by
    have hcolour : "[" ++ Level.info.colour ++ "]" = "[#8892a4]" := by decide
    rw [Viewer.label, Markup.coloured, hcolour]
    simp only [String.append_assoc]
  cases e with
  | loaded now l =>
    rw [summary, Viewer.loadedSummary, String.intercalate_cons_cons, hlabel]
    simp only [String.append_assoc]
    exact ⟨_, rfl⟩
  | simulated now s =>
    rw [summary, Viewer.simulationSummary, List.cons_append, List.cons_append,
      String.intercalate_cons_cons, hlabel]
    simp only [String.append_assoc]
    exact ⟨_, rfl⟩

theorem summary_ne_emptySummary (e : Exhibit) : e.summary ≠ Viewer.emptySummary := by
  intro h
  obtain ⟨rest, hsummary⟩ := e.exists_summary_eq
  have hempty : Viewer.emptySummary = "[#ff3366]No contract loaded[/]" := by rfl
  rw [hsummary, hempty, ← String.toList_inj, String.toList_append] at h
  have hthird := congrArg (fun cs => cs[2]?) h
  cases hthird

end Exhibit

/-- What the summary is about. -/
inductive Display
  /-- Nothing yet. -/
  | blank
  /-- That no contract is loaded. -/
  | missing
  | exhibit (e : Exhibit)

namespace Display

def summary : Display → String
  | blank => ""
  | missing => Viewer.emptySummary
  | exhibit e => e.summary

def rows : Display → List Row
  | blank | missing => []
  | exhibit e => e.rows

/-- The summary tells whether a contract is missing. -/
theorem summary_eq_emptySummary_iff (d : Display) :
    d.summary = Viewer.emptySummary ↔ d = missing := by
  cases d with
  | blank => exact iff_of_false (by decide) nofun
  | missing => exact iff_of_true rfl rfl
  | exhibit e => exact iff_of_false e.summary_ne_emptySummary nofun

end Display

/-! ## 2. What is done, and what comes of it -/

/-- Something that can be done in the viewer. -/
inductive Deed
  | mount
  | reload
  | simulate (cast : Cast)

/-- The deed loads the contract. -/
def Deed.Loads : Deed → Prop
  | mount | reload => True
  | simulate _ => False

instance : DecidablePred Deed.Loads
  | .mount | .reload => .isTrue trivial
  | .simulate _ => .isFalse not_false

/-- A deed, and how it finds the clock, the files and the cluster. -/
structure Turn where
  deed : Deed
  clock : Int := 0
  machine : Machine := {}

namespace Turn

/-- The viewer after a turn. -/
def play (v : Viewer) (t : Turn) : Viewer :=
  (match t.deed with
    | .mount => Viewing.mount t.clock ⟨v, t.machine⟩
    | .reload => Viewing.reload t.clock ⟨v, t.machine⟩
    | .simulate cast => Viewing.simulate cast t.clock ⟨v, t.machine⟩).2.viewer

/-- The result of a turn, for a viewer that goes by these settings and this time. -/
def outcome (settings : Option String) (time : Option Int) (t : Turn) : Except Fault Exhibit :=
  let now := time.getD t.clock
  let start := { t.machine with log := [] }
  match t.deed with
  | .mount | .reload => ((Report.load settings now).run.run start).1.map (.loaded now)
  | .simulate cast =>
    ((Report.simulate cast settings now).run.run start).1.map (.simulated now)

end Turn

/-- What the summary is about, and the latest result that there was. -/
structure Course where
  display : Display := .blank
  latest : Option Exhibit := none

namespace Course

/-- How a course goes on: a result is shown, and a contract that cannot be loaded is missing. -/
def next (c : Course) (d : Deed) : Except Fault Exhibit → Course
  | .ok e => ⟨.exhibit e, some e⟩
  | .error why => if d.Loads ∧ Report.isShown why then { c with display := .missing } else c

/-- The course of some turns. -/
def of (settings : Option String) (time : Option Int) (ts : List Turn) : Course :=
  ts.foldl (fun c t => c.next t.deed (t.outcome settings time)) {}

/-- The lines of the latest result. -/
def rows (c : Course) : List Row := c.latest.elim [] Exhibit.rows

/-- A contract is missing, though the latest result had tranches. -/
def Stale (c : Course) : Prop := c.display = .missing ∧ ∃ e, c.latest = some e ∧ e.tranches ≠ []

end Course

/-! ## 3. Events change nothing but the panel -/

namespace Viewer

theorem exists_hear_eq (v : Viewer) (e : Event) : ∃ lines, v.hear e = { v with lines } := by
  rw [hear]
  split
  · exact ⟨_, rfl⟩
  · exact ⟨v.lines, rfl⟩

theorem exists_foldl_hear_eq (v : Viewer) (es : List Event) :
    ∃ lines, es.foldl hear v = { v with lines } := by
  induction es generalizing v with
  | nil => exact ⟨v.lines, rfl⟩
  | cons e es ih =>
    obtain ⟨lines, hhear⟩ := v.exists_hear_eq e
    rw [List.foldl_cons, hhear]
    exact ih _

end Viewer

namespace Viewing

/-- A session is attended by its result, and by lines in the panel. -/
theorem exists_attend_eq {α : Type} (w : Viewing) (s : Session α) :
    ∃ lines m, w.attend s =
      ((s.run.run { w.machine with log := [] }).1, ⟨{ w.viewer with lines }, m⟩) := by
  rw [attend]
  generalize s.run.run { w.machine with log := [] } = run
  obtain ⟨result, m⟩ := run
  obtain ⟨lines, hhear⟩ := w.viewer.exists_foldl_hear_eq m.log.reverse
  refine ⟨lines, { m with log := m.log ++ w.machine.log }, ?_⟩
  dsimp only
  rw [hhear]

end Viewing

/-! ## 4. The viewer follows the course -/

/-- The viewer shows what there is to show on a course, and goes by these settings and this time. -/
structure Course.Follows (settings : Option String) (time : Option Int) (c : Course) (v : Viewer) :
    Prop where
  settings_eq : v.settings = settings
  time_eq : v.time = time
  summary_eq : v.summary = c.display.summary
  rows_eq : v.rows = c.rows

namespace Course.Follows

variable {settings : Option String} {time : Option Int} {c : Course} {w : Viewing}

/-- A result is shown in both places. -/
theorem shown {v v' : Viewer} {e : Exhibit} (h : c.Follows settings time v)
    (hsettings : v'.settings = v.settings) (htime : v'.time = v.time)
    (hsummary : v'.summary = e.summary) (hrows : v'.rows = Row.ofTranches e.now e.tranches) :
    Follows settings time ⟨.exhibit e, some e⟩ v' where
  settings_eq := hsettings.trans h.settings_eq
  time_eq := htime.trans h.time_eq
  summary_eq := hsummary
  rows_eq := hrows.trans e.rows_eq

theorem reload {d : Deed} (hd : d.Loads) (clock : Int) (h : c.Follows settings time w.viewer) :
    (c.next d (Turn.outcome settings time ⟨.reload, clock, w.machine⟩)).Follows settings time
      (w.reload clock).2.viewer := by
  obtain ⟨lines, m, hattend⟩ :=
    w.exists_attend_eq (Report.load w.viewer.settings (w.viewer.now clock))
  rw [Viewing.reload]
  dsimp only [Turn.outcome]
  rw [hattend, Viewer.now, h.settings_eq, h.time_eq]
  generalize ((Report.load settings (time.getD clock)).run.run { w.machine with log := [] }).1
    = result
  cases result with
  | ok l => exact h.shown rfl rfl rfl rfl
  | error why =>
    cases hshown : Report.isShown why with
    | true =>
      simp only [Except.map, next, hd, hshown, and_self, if_true]
      exact ⟨h.settings_eq, h.time_eq, rfl, h.rows_eq⟩
    | false =>
      simp only [Except.map, next, hshown, Bool.false_eq_true, and_false, if_false]
      exact ⟨h.settings_eq, h.time_eq, h.summary_eq, h.rows_eq⟩

theorem simulate (cast : Cast) (clock : Int) (h : c.Follows settings time w.viewer) :
    (c.next (.simulate cast)
      (Turn.outcome settings time ⟨.simulate cast, clock, w.machine⟩)).Follows
        settings time (w.simulate cast clock).2.viewer := by
  obtain ⟨lines, m, hattend⟩ :=
    w.exists_attend_eq (Report.simulate cast w.viewer.settings (w.viewer.now clock))
  rw [Viewing.simulate]
  dsimp only [Turn.outcome]
  rw [hattend, Viewer.now, h.settings_eq, h.time_eq]
  generalize ((Report.simulate cast settings (time.getD clock)).run.run
    { w.machine with log := [] }).1 = result
  cases result with
  | ok s => exact h.shown rfl rfl rfl rfl
  | error why =>
    have hloads : ¬ (Deed.simulate cast).Loads := not_false
    simp only [Except.map, next, hloads, false_and, if_false]
    split
    · exact ⟨h.settings_eq, h.time_eq, h.summary_eq, h.rows_eq⟩
    · exact ⟨h.settings_eq, h.time_eq, h.summary_eq, h.rows_eq⟩

/-- A turn leads from what the viewer shows to what it shows next. -/
theorem play {v : Viewer} (h : c.Follows settings time v) (t : Turn) :
    (c.next t.deed (t.outcome settings time)).Follows settings time (Turn.play v t) := by
  obtain ⟨deed, clock, m⟩ := t
  cases deed with
  | mount =>
    -- the columns and the listener come first: nothing that the course knows of
    have hlisten : c.Follows settings time v.listen :=
      ⟨h.settings_eq, h.time_eq, h.summary_eq, h.rows_eq⟩
    exact reload (w := ⟨v.listen, m⟩) (d := .mount) trivial clock hlisten
  | reload => exact reload (w := ⟨v, m⟩) (d := .reload) trivial clock h
  | simulate cast => exact simulate (w := ⟨v, m⟩) cast clock h

theorem foldl_play {v : Viewer} (h : c.Follows settings time v) (ts : List Turn) :
    (ts.foldl (fun c t => c.next t.deed (t.outcome settings time)) c).Follows settings time
      (ts.foldl Turn.play v) := by
  induction ts generalizing c v with
  | nil => exact h
  | cons t ts ih => exact ih (h.play t)

end Course.Follows

/-! ## 5. The latest result is the one on display, or there is none on display -/

namespace Course

/-- What is on display is the latest result, and before the first display there was none. -/
def Sound (c : Course) : Prop :=
  match c.display with
  | .blank => c.latest = none
  | .missing => True
  | .exhibit e => c.latest = some e

theorem Sound.next {c : Course} (h : c.Sound) (d : Deed) (outcome : Except Fault Exhibit) :
    (c.next d outcome).Sound := by
  cases outcome with
  | ok e => exact rfl
  | error why =>
    rw [Course.next]
    split
    · exact trivial
    · exact h

theorem sound_of (settings : Option String) (time : Option Int) (ts : List Turn) :
    (of settings time ts).Sound := by
  have hrun (c : Course) (h : c.Sound) :
      (ts.foldl (fun c t => c.next t.deed (t.outcome settings time)) c).Sound := by
    induction ts generalizing c with
    | nil => exact h
    | cons t ts ih => exact ih _ (h.next _ _)
  exact hrun {} rfl

/-- The table agrees with the display unless it is stale. -/
theorem Sound.rows_eq_iff {c : Course} (h : c.Sound) : c.rows = c.display.rows ↔ ¬ c.Stale := by
  obtain ⟨display, latest⟩ := c
  cases display with
  | blank =>
    cases (h : latest = none)
    exact iff_of_true rfl fun hstale => nomatch hstale.1
  | exhibit e =>
    cases (h : latest = some e)
    exact iff_of_true rfl fun hstale => nomatch hstale.1
  | missing =>
    cases latest with
    | none => exact iff_of_true rfl fun ⟨_, _, hlatest, _⟩ => nomatch hlatest
    | some e => simp [rows, Stale, Display.rows, e.rows_eq_nil_iff]

end Course

/-! ## 6. Main result -/

/-- **What summary and table show together.**  Whatever is done in the viewer, however it finds the
clock, the files and the cluster each time, and whatever comes of it, the summary is that of what is
on display, and it says that no contract is loaded exactly if none is on display.  The table has the
lines of what is on display, in their order, unless a reload has failed since a result with
tranches: then it still has the lines of that result. -/
theorem Viewer.shown_together {v : Viewer} (hsummary : v.summary = "") (hrows : v.rows = [])
    (ts : List Turn) :
    let after := ts.foldl Turn.play v
    let c := Course.of v.settings v.time ts
    after.summary = c.display.summary ∧
    (after.summary = emptySummary ↔ c.display = .missing) ∧
    (after.rows = c.display.rows ↔ ¬ c.Stale) ∧
    (c.Stale → after.rows = c.rows ∧ after.rows ≠ []) := by
  intro after c
  have hstart : Course.Follows v.settings v.time {} v := ⟨rfl, rfl, hsummary, hrows⟩
  have hafter : c.Follows v.settings v.time after := hstart.foldl_play ts
  have hsound : c.Sound := Course.sound_of v.settings v.time ts
  rw [hafter.summary_eq, hafter.rows_eq]
  refine ⟨rfl, c.display.summary_eq_emptySummary_iff, hsound.rows_eq_iff, ?_⟩
  rintro ⟨-, e, hlatest, htranches⟩
  refine ⟨rfl, ?_⟩
  rw [Course.rows, hlatest]
  exact mt e.rows_eq_nil_iff.1 htranches

namespace Sample

/-- A contract of one tranche. -/
def plan : String :=
  "contract.seed=\"0000000000000000000000000000000000000000000000000000000000000000\"
schedules=[\x7brelease_time=10,amount=30\x7d]"

/-- The settings of the plan, and a cluster that does not answer. -/
def outage : Machine where
  env := { bindings := [("HOME", "/home"), ("VESTING_PROGRAM_ID", program.text)] }
  files := { entries := [(["vesting.toml"], .file plan.toUTF8.toList)] }
  cluster := { failure := some "down" }

/-- Time 15, where the tranche is due. -/
def due : Viewer := { time := some 15 }

def mounting : Turn := ⟨.mount, 0, outage⟩

def playing : Turn := ⟨.simulate cast, 0, outage⟩

def reloading : Turn := ⟨.reload, 0, outage⟩

set_option maxRecDepth 10000 in
theorem playing_outcome : ∃ e, playing.outcome none (some 15) = .ok e ∧
    e.rows = [⟨0, 10, 0, .released⟩] := by
  have hrows : ((playing.outcome none (some 15)).toOption.map Exhibit.rows)
      = some [⟨0, 10, 0, .released⟩] := by
    decide +kernel
  cases houtcome : playing.outcome none (some 15) with
  | error why =>
    rw [houtcome] at hrows
    cases hrows
  | ok e =>
    rw [houtcome] at hrows
    exact ⟨e, rfl, Option.some.inj hrows⟩

set_option maxRecDepth 10000 in
theorem reloading_outcome :
    ∃ why, reloading.outcome none (some 15) = .error why ∧ Report.isShown why = true := by
  have hshown : (match reloading.outcome none (some 15) with
      | .ok _ => false
      | .error why => Report.isShown why) = true := by
    decide +kernel
  cases houtcome : reloading.outcome none (some 15) with
  | ok e =>
    rw [houtcome] at hshown
    cases hshown
  | error why =>
    rw [houtcome] at hshown
    exact ⟨why, rfl, hshown⟩

end Sample

/-- A simulation is shown in both places, whatever failed before. -/
theorem Viewer.shown_together_simulated :
    ∃ e, (Course.of none (some 15) [Sample.mounting, Sample.playing]).display = .exhibit e ∧
      ([Sample.mounting, Sample.playing].foldl Turn.play Sample.due).summary = e.summary ∧
      ([Sample.mounting, Sample.playing].foldl Turn.play Sample.due).rows = e.rows := by
  obtain ⟨e, hplayed, -⟩ := Sample.playing_outcome
  have hcourse : Course.of none (some 15) [Sample.mounting, Sample.playing]
      = ⟨.exhibit e, some e⟩ := by
    rw [Course.of, List.foldl_cons, List.foldl_cons, hplayed]
    rfl
  have hfresh : ¬ (Course.of none (some 15) [Sample.mounting, Sample.playing]).Stale := by
    rw [hcourse]
    exact fun hstale => nomatch hstale.1
  obtain ⟨hsummary, -, hrows, -⟩ :=
    shown_together (v := Sample.due) rfl rfl [Sample.mounting, Sample.playing]
  refine ⟨e, congrArg Course.display hcourse, hsummary.trans ?_, (hrows.2 hfresh).trans ?_⟩
  · exact congrArg (fun c => c.display.summary) hcourse
  · exact congrArg (fun c => c.display.rows) hcourse

/-- After a reload that fails, the tranches of a simulation stay under the summary that says that
no contract is loaded. -/
theorem Viewer.rows_left_behind :
    let after := [Sample.mounting, Sample.playing, Sample.reloading].foldl Turn.play Sample.due
    after.summary = emptySummary ∧ after.rows = [⟨0, 10, 0, .released⟩] := by
  obtain ⟨e, hplayed, hrows⟩ := Sample.playing_outcome
  obtain ⟨why, hfailed, hshown⟩ := Sample.reloading_outcome
  have hcourse : Course.of none (some 15) [Sample.mounting, Sample.playing, Sample.reloading]
      = ⟨.missing, some e⟩ := by
    rw [Course.of, List.foldl_cons, List.foldl_cons, List.foldl_cons, hplayed, hfailed]
    exact if_pos ⟨trivial, hshown⟩
  have hstart : Course.Follows none (some 15) {} Sample.due := ⟨rfl, rfl, rfl, rfl⟩
  have hafter := hstart.foldl_play [Sample.mounting, Sample.playing, Sample.reloading]
  rw [← Course.of, hcourse] at hafter
  exact ⟨hafter.summary_eq, hafter.rows_eq.trans hrows⟩

end Vesting
