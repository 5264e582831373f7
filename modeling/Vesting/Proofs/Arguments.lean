/-
# Arguments that say one thing each

Reading arguments by a grammar is a recursion with many ways out: an option may be cut short, take
the argument behind it for its value, share a dash with others, belong to another command, or make
everything behind it a value.  Arguments of the plain kind go none of these ways.  An option with
its value behind an equals sign, an option without a value, and a value that starts with no dash
are read by themselves, whatever stands around them, and add one entry to what is given
(`Supplies`).

So a list of such arguments adds its entries in order (`readOn_of_supplies`), and a command with
one place takes them in front of its value and behind it alike (`Grammar.read_leaf`).  Nothing is
said here about other arguments.
-/
import Mathlib.Data.List.Forall2
import Mathlib.Data.List.TakeDrop
import Vesting.CommandLine.Grammar

namespace Vesting

/-- A text is cut at the first separator. -/
theorem Text.cut?_append {sep : Char} {before : List Char} (h : sep ∉ before) (after : List Char) :
    cut? sep (before ++ sep :: after) = some (before, after) := by
  have hbefore : ∀ c ∈ before, (c != sep) = true := by
    rintro c hc
    rw [bne_iff_ne]
    rintro rfl
    exact h hc
  have hspan : (before ++ sep :: after).span (· != sep) = (before, sep :: after) := by
    rw [List.span_eq_takeWhile_dropWhile, List.takeWhile_append_of_pos hbefore,
      List.dropWhile_append_of_pos hbefore]
    simp
  rw [cut?, hspan]

namespace CommandLine

variable {o : Options} {g : Given} {f : Field} {name arg text : String} {args : List String}
  {entry : String × Value} {entries : List (String × Value)}

/-! ## 1. Single arguments -/

/-- An option with its value behind an equals sign. -/
def attached (name text : String) : String := "--" ++ name ++ "=" ++ text

theorem toList_attached (name text : String) :
    (attached name text).toList = '-' :: '-' :: (name.toList ++ '=' :: text.toList) := by
  simp [attached]

/-- What starts with no dash is a value. -/
theorem readArgument_eq_value (h : arg.toList.head? ≠ some '-') : readArgument o arg = .value := by
  unfold readArgument
  split
  · rename_i hdash
    simp [hdash] at h
  · rename_i hdash
    simp [hdash] at h
  · rfl

theorem readArgument_ne_ambiguous (h : arg.toList.head? ≠ some '-') :
    readArgument o arg ≠ .ambiguous := by
  rw [readArgument_eq_value h]
  nofun

theorem ne_dashes_of_head (h : arg.toList.head? ≠ some '-') : arg ≠ "--" := by
  rintro rfl
  exact h (by decide)

/-- An option that is known by its name takes the value attached to it. -/
theorem readArgument_attached (hname : '=' ∉ name.toList)
    (hfind : o.named.find? (fun n => n.name.toList == name.toList) = some (.field f)) :
    readArgument o (attached name text) = .named (.field f) (some text) := by
  rw [readArgument, toList_attached]
  simp only [readLong, Text.cut?_append hname, hfind, String.ofList_toList]

theorem readUnknown_ne_ambiguous (cs : List Char) : readUnknown cs ≠ .ambiguous := by
  unfold readUnknown
  split <;> nofun

/-- An option whose name starts none is not ambiguous. -/
theorem readArgument_attached_ne_ambiguous (hname : '=' ∉ name.toList)
    (hfilter : o.named.filter (fun n => name.toList.isPrefixOf n.name.toList) = []) :
    readArgument o (attached name text) ≠ .ambiguous := by
  rw [readArgument, toList_attached]
  simp only [readLong, Text.cut?_append hname, hfilter]
  split
  · nofun
  · exact readUnknown_ne_ambiguous _

/-! ## 2. Arguments that add an entry -/

/-- Adds entries. -/
def Given.addAll (g : Given) (entries : List (String × Value)) : Given :=
  { g with values := g.values ++ entries }

/-- At a command with options `o` the argument adds an entry, and does nothing else. -/
structure Supplies (o : Options) (arg : String) (entry : String × Value) : Prop where
  ne_dashes : arg ≠ "--"
  clear : readArgument o arg ≠ .ambiguous
  adds : ∀ place g rest,
    readOn (.leaf o place) g (arg :: rest) = readOn (.leaf o place) (g.addAll [entry]) rest

/-- An option that is known by its name supplies its value. -/
theorem supplies_attached {v : Value} (hname : '=' ∉ name.toList)
    (hfind : o.named.find? (fun n => n.name.toList == name.toList) = some (.field f))
    (hadd : ∀ g, Given.addAttached g f text = .ok (g.addAll [(name, v)])) :
    Supplies o (attached name text) (name, v) := by
  have hread := @readArgument_attached o f name text hname hfind
  have hne : attached name text ≠ "--" := by
    intro h
    have hlist := congrArg String.toList h
    rw [toList_attached, show "--".toList = ['-', '-'] by decide] at hlist
    simp at hlist
  refine ⟨hne, by rw [hread]; nofun, fun place g rest => ?_⟩
  rw [readOn, if_neg hne]
  simp only [Grammar.options, hread, hadd]
  rfl

/-- An option without a value supplies itself. -/
theorem supplies_mark {m : Mark} (hne : arg ≠ "--") (hhelp : m.help = false)
    (hread : readArgument o arg = .named (.mark m) none) : Supplies o arg (m.name, .mark) := by
  refine ⟨hne, by rw [hread]; nofun, fun place g rest => ?_⟩
  rw [readOn, if_neg hne]
  simp only [Grammar.options, hread, Given.addMark, hhelp]
  rfl

/-- **Arguments that each add an entry add them all, in their order.** -/
theorem readOn_of_supplies {place : Option Place} {rest : List String}
    (h : List.Forall₂ (Supplies o) args entries) :
    readOn (.leaf o place) g (args ++ rest) = readOn (.leaf o place) (g.addAll entries) rest := by
  induction h generalizing g with
  | nil => simp [Given.addAll]
  | cons harg _ ih =>
    rw [List.cons_append, harg.adds, ih]
    simp [Given.addAll]

theorem Supplies.of_mem (h : List.Forall₂ (Supplies o) args entries) (harg : arg ∈ args) :
    ∃ entry, Supplies o arg entry := by
  induction h with
  | nil => cases harg
  | cons hfirst _ ih =>
    rcases List.mem_cons.1 harg with rfl | harg
    · exact ⟨_, hfirst⟩
    · exact ih harg

theorem isClear_of_forall (h : ∀ arg ∈ args, readArgument o arg ≠ .ambiguous) :
    isClear o args = true := by
  induction args with
  | nil => rfl
  | cons arg rest ih =>
    obtain ⟨harg, hrest⟩ := List.forall_mem_cons.1 h
    rw [isClear, Bool.or_eq_true]
    right
    split
    · rename_i hambiguous
      exact absurd hambiguous harg
    · exact ih hrest

/-! ## 3. Commands with one place -/

/-- The value of a place fills it. -/
theorem readOn_place {p : Place} {rest : List String} (htext : text.toList.head? ≠ some '-')
    (hrest : rest ≠ ["--"])
    (hadd : Given.addText g p.name p.shape text = .ok (g.addAll [(p.name, .text text)])) :
    readOn (.leaf o (some p)) g (text :: rest)
      = readOn (.leaf o none) (g.addAll [(p.name, .text text)]) rest := by
  rw [readOn, if_neg (ne_dashes_of_head htext)]
  simp only [Grammar.options, readArgument_eq_value htext, hadd, if_neg hrest]
  rfl

/-- Options in front of the value of a place and behind it are read alike. -/
theorem readOn_leaf {p : Place} {front back : List String} {before behind : List (String × Value)}
    (htext : text.toList.head? ≠ some '-')
    (hadd : ∀ g, Given.addText g p.name p.shape text = .ok (g.addAll [(p.name, .text text)]))
    (hfront : List.Forall₂ (Supplies o) front before)
    (hback : List.Forall₂ (Supplies o) back behind) :
    readOn (.leaf o (some p)) g (front ++ text :: back)
      = .ok (g.addAll (before ++ (p.name, .text text) :: behind)) := by
  have hrest : back ≠ ["--"] := by
    rintro rfl
    obtain ⟨_, hdashes⟩ := Supplies.of_mem hback List.mem_cons_self
    exact hdashes.ne_dashes rfl
  rw [readOn_of_supplies hfront, readOn_place htext hrest (hadd _), ← List.append_nil back,
    readOn_of_supplies hback]
  simp [readOn, finish, Given.addAll]

/-- **A command with one place is read from its options and the value of its place**, in any
order. -/
theorem Grammar.read_leaf {top o : Options} {commands : List (String × Grammar)} {p : Place}
    {word text : String} {front back : List String} {before behind : List (String × Value)}
    (hword : word.toList.head? ≠ some '-')
    (hlookup : commands.lookup word = some (.leaf o (some p)))
    (htext : text.toList.head? ≠ some '-')
    (hadd : ∀ g, Given.addText g p.name p.shape text = .ok (g.addAll [(p.name, .text text)]))
    (hclear : ∀ arg ∈ front ++ back, readArgument top arg ≠ .ambiguous)
    (hfront : List.Forall₂ (Supplies o) front before)
    (hback : List.Forall₂ (Supplies o) back behind) :
    (Grammar.branch top commands).read (word :: (front ++ text :: back))
      = .ok { commands := [word], values := before ++ (p.name, .text text) :: behind } := by
  obtain ⟨hclearFront, hclearBack⟩ := List.forall_mem_append.1 hclear
  have htop : isClear top (word :: (front ++ text :: back)) = true :=
    isClear_of_forall (List.forall_mem_cons.2 ⟨readArgument_ne_ambiguous hword,
      List.forall_mem_append.2 ⟨hclearFront,
        List.forall_mem_cons.2 ⟨readArgument_ne_ambiguous htext, hclearBack⟩⟩⟩)
  have hsupplied {args : List String} {entries : List (String × Value)}
      (h : List.Forall₂ (Supplies o) args entries) :
      ∀ arg ∈ args, readArgument o arg ≠ .ambiguous :=
    fun _ harg => (Supplies.of_mem h harg).elim fun _ hs => hs.clear
  have hinner : isClear o (front ++ text :: back) = true :=
    isClear_of_forall (List.forall_mem_append.2 ⟨hsupplied hfront,
      List.forall_mem_cons.2 ⟨readArgument_ne_ambiguous htext, hsupplied hback⟩⟩)
  have hread : readOn (.branch top commands) {} (word :: (front ++ text :: back))
      = .ok ⟨[word], before ++ (p.name, .text text) :: behind, false⟩ := by
    rw [readOn, if_neg (ne_dashes_of_head hword)]
    simp only [Grammar.options, readArgument_eq_value hword, hlookup, hinner, if_true]
    exact readOn_leaf htext hadd hfront hback
  rw [Grammar.read, show (Grammar.branch top commands).options = top from rfl, if_pos htop, hread]
  rfl

end CommandLine
end Vesting
