/-
# Commands as text

One command of the program prints the bytes of a command, the other takes such a text and prints
the command that is in it.  They are inverse: whatever can be asked of the one, its answer is read
by the other, and what is shown is the command that was asked for
(`CommandLine.encoded_is_decoded`).

What is asked for is a list of options around the word for a kind, in any order and with any
repetitions.  `CommandLine.Asks` says which command this is, and it says so of texts and numbers
alone: the last option of a name counts, only schedules count all.

Each stage hands on to the next.  The arguments are of the plain kind (`Supplies`), a tranche is
cut at its colon because no literal holds one, and no text of bytes has a dash in front that would
make an option of it.  One text is lost on the way.  Two dashes behind an equals sign leave an
option empty, so the phrase that consists of them cannot be given like this, and this is all that
has to be excluded (`CommandLine.encode_dashes`).
-/
import Vesting.CommandLine.Ending
import Vesting.Proofs.Arguments
import Vesting.Proofs.Base64
import Vesting.Proofs.Schedules
import Vesting.Proofs.Base58
import Vesting.Proofs.Checks
import Vesting.Proofs.Resolution
import Vesting.Proofs.Session
import Vesting.Proofs.Wire

namespace Vesting

/-! ## 1. The text of bytes -/

namespace Command

/-- What may stand in front of the text of bytes. -/
def marks (base64 : Bool) : List String := if base64 then [""] else ["", "0x", "0X"]

theorem withoutMark_append {mark : String} {digits : List Char} (hmark : mark ∈ marks false)
    (h : ∀ c ∈ digits, (Hex.value? c).isSome) :
    withoutMark (mark.toList ++ digits) = digits := by
  simp only [marks, Bool.false_eq_true, if_false, List.mem_cons, List.not_mem_nil,
    or_false] at hmark
  rcases hmark with rfl | rfl | rfl
  · show withoutMark digits = digits
    unfold withoutMark
    split
    · exact absurd (h 'x' (by simp)) (by decide)
    · exact absurd (h 'X' (by simp)) (by decide)
    · rfl
  · rfl
  · rfl

/-- The text of bytes has no white space and no dash in it. -/
theorem plain_bytesText {base64 : Bool} {mark : String} (hmark : mark ∈ marks base64)
    (data : Bytes) :
    ∀ c ∈ (mark ++ CommandLine.Ending.bytesText base64 data).toList,
      Text.isBlank c = false ∧ c ≠ '-' := by
  rw [String.toList_append, List.forall_mem_append]
  constructor
  · have hall : ∀ base64 : Bool, ∀ mark ∈ marks base64,
        mark.toList.all (fun c => !Text.isBlank c && c != '-') = true := by
      decide
    simpa using List.all_eq_true.1 (hall base64 mark hmark)
  intro c hc
  cases base64 with
  | true =>
    rw [CommandLine.Ending.bytesText, if_pos rfl, Base64.encode, String.toList_ofList] at hc
    exact (Base64.isPlain_encodeFrom data c hc).2
  | false =>
    rw [CommandLine.Ending.bytesText, if_neg (by decide), Hex.encode, String.toList_ofList] at hc
    obtain ⟨v, hv⟩ := Option.isSome_iff_exists.1
      (Hex.isSome_of_digits_eq (Hex.map_toLower_digits data) c hc)
    refine ⟨(Hex.spec_of_value? hv).2.2, ?_⟩
    rintro rfl
    cases hv

/-- **Bytes are read back from their text**, whatever mark is put in front. -/
theorem bytesOfText_bytesText {base64 : Bool} {mark : String} (hmark : mark ∈ marks base64)
    (data : Bytes) :
    bytesOfText base64 (mark ++ CommandLine.Ending.bytesText base64 data) = .ok data := by
  have hplain := plain_bytesText hmark data
  have htrim : Text.trim (mark ++ CommandLine.Ending.bytesText base64 data).toList
      = (mark ++ CommandLine.Ending.bytesText base64 data).toList :=
    Text.trimWhile_eq_self (fun c hc => (hplain c (List.mem_of_mem_head? hc)).1)
      fun c hc => (hplain c (List.mem_of_mem_getLast? hc)).1
  rw [bytesOfText, htrim, String.toList_append]
  cases base64 with
  | true =>
    obtain rfl : mark = "" := by simpa [marks] using hmark
    simp [CommandLine.Ending.bytesText, Base64.decode_encode]
  | false =>
    have hdigits := Hex.map_toLower_digits data
    have hdecode :
        Hex.decode (withoutMark (mark.toList ++ data.flatMap Hex.digits)) = .ok data := by
      rw [withoutMark_append hmark (Hex.isSome_of_digits_eq hdigits),
        Hex.decode_of_digits_eq hdigits]
    simp [CommandLine.Ending.bytesText, Hex.encode, hdecode]

end Command

/-! ## 2. The text of a tranche -/

namespace Tranche

/-- `text` is the time of a tranche and its amount, with a colon between them. -/
def IsWritten (text : String) (t : Tranche) : Prop :=
  ∃ time amount, text = time ++ ":" ++ amount ∧
    Word64.Denotes (.text time) t.releaseTime.toNat ∧ Word64.Denotes (.text amount) t.amount.toNat

variable {text : String} {t : Tranche}

theorem IsWritten.ofText (h : IsWritten text t) : ofText text = .ok t := by
  obtain ⟨time, amount, rfl, htime, hamount⟩ := h
  have hcolon : ':' ∉ time.toList := by
    cases htime with
    | text h => exact h.colon_notMem
  have hlist : (time ++ ":" ++ amount).toList = time.toList ++ ':' :: amount.toList := by simp
  rw [Tranche.ofText, hlist, Text.cut?_append hcolon]
  simp only [String.ofList_toList, Word64.read_eq_ok_iff.2 htime, Word64.read_eq_ok_iff.2 hamount]
  rfl

theorem IsWritten.ne_dashes (h : IsWritten text t) : text ≠ "--" := by
  rintro rfl
  obtain ⟨time, amount, hdashes, -⟩ := h
  have hmem : ':' ∈ "--".toList := by
    rw [hdashes]
    simp
  exact absurd hmem (by decide)

theorem mapM_ofText {texts : List String} {ts : List Tranche}
    (h : List.Forall₂ IsWritten texts ts) : texts.mapM Tranche.ofText = .ok ts := by
  induction h with
  | nil => rfl
  | cons htext _ ih =>
    rw [List.mapM_cons, htext.ofText, ih]
    rfl

end Tranche

namespace CommandLine

/-! ## 3. What can be given -/

/-- Something that is given for encoding, besides the kind of the command. -/
inductive Item
  | seeds (text : String)
  | number (n : UInt32)
  | mint (text : String)
  | destination (text : String)
  | schedule (text : String)
  | settings (text : String)
  | program (text : String)
  | base64
deriving DecidableEq

namespace Item

/-- The option. -/
def name : Item → String
  | seeds _ => "seeds"
  | number _ => "number"
  | mint _ => "mint"
  | destination _ => "destination"
  | schedule _ => "schedule"
  | settings _ => "config"
  | program _ => "program-id"
  | base64 => "base64"

/-- The text behind the equals sign; one option has none. -/
def text : Item → String
  | seeds s | mint s | destination s | schedule s | settings s | program s => s
  | number n => toString n.toNat
  | base64 => ""

/-- The argument. -/
def arg : Item → String
  | base64 => "--base64"
  | i => attached i.name i.text

/-- The value that the argument gives. -/
def value : Item → Value
  | base64 => .mark
  | number n => .integer n.toNat
  | i => if i.text = "--" then .blank else .text i.text

/-- The texts given for an option, in their order. -/
def texts (items : List Item) (name : String) : List String :=
  (items.filter fun i => i.name = name).map text

/-- The last text given for an option. -/
def last? (items : List Item) (name : String) : Option String := (texts items name).getLast?

/-- The last text given for an option, unless that leaves it empty. -/
def named? (items : List Item) (name : String) : Option String :=
  (last? items name).filter fun s => s ≠ "--"

/-- The numbers given, in their order. -/
def numbers (items : List Item) : List UInt32 :=
  items.filterMap fun i => match i with
    | number n => some n
    | _ => none

/-- The last number that is given, or zero. -/
def lastNumber (items : List Item) : UInt32 := (numbers items).getLast?.getD 0

/-- Base 64 is asked for. -/
def inBase64 (items : List Item) : Bool := items.contains .base64

end Item

/-- The options for encoding. -/
def encodeOptions : Options where
  marks := [{ name := "base64" }]
  fields := [{ name := "seeds" }, { name := "number", shape := .integer }, { name := "mint" },
    { name := "destination" }, { name := "schedule" }, settingsField, programField]

/-- The place for the kind of a command. -/
def kindPlace : Place := { name := "kind", shape := .oneOf (kindWords.map Prod.fst) }

variable {items front back : List Item} {g : Given} {name text : String}

theorem addAttached_text {f : Field} (hshape : f.shape = .text) :
    g.addAttached f text
      = .ok (g.addAll [(f.name, if text = "--" then .blank else .text text)]) := by
  rw [Given.addAttached, hshape]
  split <;> rfl

theorem toList_toString (n : Nat) : (toString n).toList = Nat.toDigits 10 n := by
  show (String.ofList (Nat.toDigits 10 n)).toList = _
  rw [String.toList_ofList]

/-- A number of 32 bits has at most ten digits. -/
theorem parseDecimal_word32 (n : UInt32) :
    Text.IntegerLiteral.parseDecimal (toString n.toNat).toList = .ok n.toNat := by
  rw [toList_toString]
  refine Text.IntegerLiteral.parseDecimal_toDigits ?_
  have hlt : n.toNat < 10 ^ 10 := Nat.lt_trans n.toNat_lt (by decide)
  exact Nat.le_trans ((Nat.length_toDigits_le_iff (by decide) (by decide)).2 hlt) (by decide)

theorem addAttached_number {f : Field} (hshape : f.shape = .integer) (n : UInt32) :
    g.addAttached f (toString n.toNat) = .ok (g.addAll [(f.name, .integer n.toNat)]) := by
  have hne : toString n.toNat ≠ "--" := by
    intro h
    have hparse := parseDecimal_word32 n
    rw [h] at hparse
    cases hparse.symm.trans (show _ = Except.error .form by decide)
  rw [Given.addAttached, if_neg hne, hshape, Given.addText]
  simp only [parseDecimal_word32]
  rfl

theorem supplies_text (f : Field) (hname : '=' ∉ f.name.toList)
    (hfind : encodeOptions.named.find? (fun n => n.name.toList == f.name.toList) = some (.field f))
    (hshape : f.shape = .text) (text : String) :
    Supplies encodeOptions (attached f.name text)
      (f.name, if text = "--" then .blank else .text text) :=
  supplies_attached hname hfind fun _ => addAttached_text hshape

/-- Every item supplies its value under its name. -/
theorem Item.supplies (i : Item) : Supplies encodeOptions i.arg (i.name, i.value) := by
  cases i with
  | seeds s => exact supplies_text { name := "seeds" } (by decide) rfl rfl s
  | number n =>
    exact @supplies_attached _ { name := "number", shape := .integer } "number" _ _ (by decide) rfl
      fun _ => addAttached_number rfl n
  | mint s => exact supplies_text { name := "mint" } (by decide) rfl rfl s
  | destination s => exact supplies_text { name := "destination" } (by decide) rfl rfl s
  | schedule s => exact supplies_text { name := "schedule" } (by decide) rfl rfl s
  | settings s => exact supplies_text settingsField (by decide) rfl rfl s
  | program s => exact supplies_text programField (by decide) rfl rfl s
  | base64 =>
    exact @supplies_mark _ "--base64" { name := "base64" } (by decide) rfl rfl

/-- The program itself has no option that an item could be short for. -/
theorem Item.readArgument_ne_ambiguous (i : Item) :
    readArgument grammar.options i.arg ≠ .ambiguous := by
  have hall : ∀ name ∈ ["seeds", "number", "mint", "destination", "schedule", "config",
      "program-id", "base64"], '=' ∉ name.toList ∧
        (grammar.options.named.filter fun n => name.toList.isPrefixOf n.name.toList).length
          = 0 := by
    decide
  obtain ⟨hname, hfilter⟩ := hall i.name (by cases i <;> simp [name])
  cases i with
  | base64 => exact nofun
  | _ => exact readArgument_attached_ne_ambiguous hname (List.length_eq_zero_iff.1 hfilter)

/-! ## 4. What is given -/

/-- What is given by items around the word for a kind. -/
def givenBy (front : List Item) (word : String) (back : List Item) : Given where
  commands := ["encode"]
  values := front.map (fun i => (i.name, i.value))
    ++ ("kind", .text word) :: back.map fun i => (i.name, i.value)

/-- What an option holds after a text. -/
def entryOf (s : String) : Entry String := if s = "--" then .blank else .value s

theorem valuesOf_givenBy (word : String) (hname : name ≠ "kind") :
    (givenBy front word back).valuesOf name
      = ((front ++ back).filter fun i => i.name = name).map Item.value := by
  have hitems (items : List Item) :
      (items.map fun i => (i.name, i.value)).filterMap
          (fun e => if e.1 = name then some e.2 else none)
        = (items.filter fun i => i.name = name).map Item.value := by
    rw [List.filterMap_map]
    induction items with
    | nil => rfl
    | cons i items ih => by_cases hi : i.name = name <;> simpa [hi] using ih
  rw [Given.valuesOf, givenBy, List.filterMap_append, List.filterMap_cons_none, hitems, hitems,
    List.filter_append, List.map_append]
  exact if_neg (Ne.symm hname)

/-- The texts of an option are those of its items. -/
theorem texts_givenBy (word : String) (hname : name ∉ ["kind", "number", "base64"]) :
    (givenBy front word back).texts name = (Item.texts (front ++ back) name).map entryOf := by
  simp only [List.mem_cons, List.not_mem_nil, or_false, not_or] at hname
  rw [Given.texts, valuesOf_givenBy word hname.1, Item.texts, List.filterMap_map, List.map_map,
    ← List.filterMap_eq_map]
  refine List.filterMap_congr fun i hi => ?_
  obtain rfl : i.name = name := by simpa using (List.mem_filter.1 hi).2
  have hvalue : i.value = if i.text = "--" then .blank else .text i.text := by
    cases i with
    | number => exact absurd rfl hname.2.1
    | base64 => exact absurd rfl hname.2.2
    | _ => rfl
  simp only [Function.comp_apply, hvalue, entryOf]
  by_cases htext : i.text = "--" <;> simp [htext]

theorem text?_givenBy (word : String) (hname : name ∉ ["kind", "number", "base64"]) :
    (givenBy front word back).text? name = Item.named? (front ++ back) name := by
  rw [Given.text?, Given.lastText?, texts_givenBy word hname, List.getLast?_map, Item.named?,
    Item.last?]
  cases (Item.texts (front ++ back) name).getLast? with
  | none => rfl
  | some s => by_cases hs : s = "--" <;> simp [entryOf, hs, Entry.toOption, Option.filter]

/-- The number is the last that is given. -/
theorem integer?_givenBy (word : String) :
    ((givenBy front word back).integer? "number").getD (.value 0)
      = .value (Item.lastNumber (front ++ back)).toNat := by
  have hitems (items : List Item) :
      (items.filter fun i => i.name = "number").map Item.value
        = (Item.numbers items).map fun n => Value.integer n.toNat := by
    induction items with
    | nil => rfl
    | cons i items ih => cases i <;> simpa [Item.name, Item.value, Item.numbers] using ih
  rw [Given.integer?, valuesOf_givenBy word (by decide), hitems, List.filterMap_map]
  show (List.filterMap (some ∘ fun n : UInt32 => Entry.value (n.toNat : Int))
    (Item.numbers (front ++ back))).getLast?.getD _ = _
  rw [List.filterMap_eq_map, List.getLast?_map, Item.lastNumber]
  cases (Item.numbers (front ++ back)).getLast? <;> rfl

theorem has_givenBy (word : String) :
    (givenBy front word back).has "base64" = Item.inBase64 (front ++ back) := by
  have hname (i : Item) : i.name = "base64" ↔ i = .base64 := by cases i <;> simp [Item.name]
  rw [Bool.eq_iff_iff, Given.has, Given.count, decide_eq_true_eq, List.length_pos_iff_exists_mem]
  simp [givenBy, Item.inBase64, hname, and_comm, exists_or]

theorem kind_givenBy (word : String) : (givenBy front word back).text? "kind" = some word := by
  have hitems (items : List Item) : (items.map fun i => (i.name, i.value)).filterMap
      (fun e => if e.1 = "kind" then some e.2 else none) = [] := by
    rw [List.filterMap_eq_nil_iff, List.forall_mem_map]
    intro i _
    cases i <;> rfl
  have hvalues : (givenBy front word back).valuesOf "kind" = [.text word] := by
    rw [Given.valuesOf, givenBy, List.filterMap_append, List.filterMap_cons, hitems, hitems]
    rfl
  rw [Given.text?, Given.lastText?, Given.texts, hvalues]
  rfl

/-! ## 5. What is asked for -/

/-- The seeds that items name for a program.  Two dashes name none. -/
def SeedsGiven (items : List Item) (program : Key) (s : Seeds) : Prop :=
  ∃ text address, Item.last? items "seeds" = some text ∧ text ≠ "--" ∧
    Seeds.resolve text program = .ok (s, address)

/-- The command of a kind that items ask for. -/
inductive Asks (items : List Item) (program : Key) : Command.Kind → Command → Prop
  | init {s : Seeds} (hseeds : SeedsGiven items program s) :
    Asks items program .init (.init s (Item.lastNumber items))
  | create {s : Seeds} {mint destination : Key} {ts : List Tranche}
    (hseeds : SeedsGiven items program s) (hmint : Item.last? items "mint" = some mint.text)
    (hdestination : Item.last? items "destination" = some destination.text)
    (hts : List.Forall₂ Tranche.IsWritten (Item.texts items "schedule") ts) :
    Asks items program .create (.create s mint destination ts)
  | unlock {s : Seeds} (hseeds : SeedsGiven items program s) :
    Asks items program .unlock (.unlock s)
  | changeDestination {s : Seeds} (hseeds : SeedsGiven items program s) :
    Asks items program .changeDestination (.changeDestination s)
  | empty : Asks items program .empty (.empty (Item.lastNumber items))

/-- The arguments by which items and a kind are given for encoding. -/
def encodeArgs (front : List Item) (kind : Command.Kind) (back : List Item) : List String :=
  "encode" :: (front.map Item.arg ++ wordOf kind :: back.map Item.arg)

/-- The blueprint of items and a kind. -/
def blueprintOf (items : List Item) (kind : Command.Kind) : Blueprint where
  kind := kind
  seeds := Item.named? items "seeds"
  number := .value (Item.lastNumber items).toNat
  mint := Item.named? items "mint"
  destination := Item.named? items "destination"
  tranches := (Item.texts items "schedule").map fun s => (entryOf s).toOption.getD Given.emptyText

variable {kind : Command.Kind} {program : Key} {s : Seeds} {c : Command} {m m' : Machine}
  {cast : Cast}

theorem read_encodeArgs (front : List Item) (kind : Command.Kind) (back : List Item) :
    grammar.read (encodeArgs front kind back) = .ok (givenBy front (wordOf kind) back) := by
  have hsupplies (items : List Item) : List.Forall₂ (Supplies encodeOptions) (items.map Item.arg)
      (items.map fun i => (i.name, i.value)) := by
    rw [List.forall₂_map_left_iff, List.forall₂_map_right_iff]
    exact List.forall₂_same.2 fun i _ => i.supplies
  have hclear : ∀ arg ∈ front.map Item.arg ++ back.map Item.arg,
      readArgument grammar.options arg ≠ .ambiguous := by
    rw [← List.map_append, List.forall_mem_map]
    exact fun i _ => i.readArgument_ne_ambiguous
  have hword : (wordOf kind).toList.head? ≠ some '-' := by cases kind <;> decide
  have hadd (g : Given) : g.addText kindPlace.name kindPlace.shape (wordOf kind)
      = .ok (g.addAll [(kindPlace.name, .text (wordOf kind))]) := by
    have hcontains : (kindWords.map Prod.fst).contains (wordOf kind) = true := by
      cases kind <;> decide
    exact if_pos hcontains
  exact Grammar.read_leaf (by decide) rfl hword hadd hclear (hsupplies front) (hsupplies back)

theorem request?_givenBy (front : List Item) (kind : Command.Kind) (back : List Item) :
    (givenBy front (wordOf kind) back).request?
      = some (.encode (blueprintOf (front ++ back) kind) (Item.inBase64 (front ++ back))
        (Item.named? (front ++ back) "config") (Item.named? (front ++ back) "program-id")) := by
  have hkind : kindWords.lookup (wordOf kind) = some kind := by cases kind <;> rfl
  have hblueprint : (givenBy front (wordOf kind) back).blueprint kind
      = blueprintOf (front ++ back) kind := by
    rw [Given.blueprint, blueprintOf, text?_givenBy _ (by decide), text?_givenBy _ (by decide),
      text?_givenBy _ (by decide), texts_givenBy _ (by decide), integer?_givenBy, List.map_map]
    rfl
  have hcommands : (givenBy front (wordOf kind) back).commands = ["encode"] := rfl
  simp only [Given.request?, hcommands, kind_givenBy, hkind, hblueprint, has_givenBy, bind,
    Option.bind_some]
  rw [text?_givenBy _ (by decide), text?_givenBy _ (by decide)]

/-! ## 6. Encoding -/

/-- A text counts unless it is empty, and unless it leaves its option empty. -/
theorem given?_named? {name text : String} (h : Item.last? items name = some text)
    (hdashes : text ≠ "--") (hempty : text ≠ "") : given? (Item.named? items name) = some text := by
  simp [Item.named?, given?, h, hdashes, hempty]

/-- The text of a key counts. -/
theorem given?_key {name : String} {key : Key} (h : Item.last? items name = some key.text) :
    given? (Item.named? items name) = some key.text :=
  given?_named? h (key.text_ne (by decide)) key.text_ne_empty

/-- No text leads to seeds and is empty. -/
theorem ne_empty_of_resolve {text : String} {address : Key}
    (h : Seeds.resolve text program = .ok (s, address)) : text ≠ "" := by
  rintro rfl
  have hstart : Seeds.start (Seeds.phraseBytes (Text.trimmed ""))
      = .error (.invalid .emptyPhrase) := by
    decide +kernel
  rw [Seeds.resolve_of_not_isHex program (by decide), Seeds.ofPhrase, hstart] at h
  cases h

theorem readCount_lastNumber (field : String) (items : List Item) :
    readCount field (.value (Item.lastNumber items).toNat) = .ok (Item.lastNumber items) := by
  refine (Word32.ofInt_of_lt field (Item.lastNumber items).toNat_lt).trans ?_
  rw [UInt32.ofNat_toNat]

/-- A command with seeds is built from them. -/
theorem gives_seeded (hkind : kind ≠ .empty)
    (hprogram : (Ending.findProgram (Item.named? items "config")
      (Item.named? items "program-id")).Gives m program m')
    (hseeds : SeedsGiven items program s) (hcommand : (blueprintOf items kind).seeded s = .ok c) :
    (Ending.buildCommand (blueprintOf items kind) (Item.named? items "config")
      (Item.named? items "program-id")).Gives m c m' := by
  obtain ⟨text, address, hlast, hne, hresolve⟩ := hseeds
  have htext : (blueprintOf items kind).seedText = .ok text := by
    have hgiven := given?_named? hlast hne (ne_empty_of_resolve hresolve)
    simp only [Blueprint.seedText, blueprintOf, hgiven]
  unfold Ending.buildCommand
  split
  · rename_i hempty
    exact absurd hempty hkind
  · exact Session.gives_bind (Session.gives_orFail htext) (Session.gives_bind hprogram
      (Session.gives_bind (Session.gives_orFail hresolve) (Session.gives_orFail hcommand)))

/-- No text of a tranche leaves its option empty. -/
theorem map_entryOf {texts : List String} {ts : List Tranche}
    (hts : List.Forall₂ Tranche.IsWritten texts ts) :
    (texts.map fun s => (entryOf s).toOption.getD Given.emptyText) = texts := by
  induction hts with
  | nil => rfl
  | cons ht _ ih =>
    rw [List.map_cons, ih, entryOf, if_neg ht.ne_dashes]
    rfl

theorem tranches_blueprintOf {ts : List Tranche}
    (hts : List.Forall₂ Tranche.IsWritten (Item.texts items "schedule") ts) :
    (blueprintOf items kind).tranches.mapM Tranche.ofText = .ok ts := by
  rw [blueprintOf, map_entryOf hts]
  exact Tranche.mapM_ofText hts

/-- **What is asked for is built.** -/
theorem gives_buildCommand
    (hprogram : kind ≠ .empty → (Ending.findProgram (Item.named? items "config")
      (Item.named? items "program-id")).Gives m program m')
    (h : Asks items program kind c) :
    ∃ m'', (Ending.buildCommand (blueprintOf items kind) (Item.named? items "config")
      (Item.named? items "program-id")).Gives m c m'' := by
  cases h with
  | init hseeds =>
    refine ⟨m', gives_seeded (by decide) (hprogram (by decide)) hseeds ?_⟩
    show Command.init _ <$> readCount _ (.value (Item.lastNumber items).toNat) = _
    rw [readCount_lastNumber]
    rfl
  | @create s mint destination ts hseeds hmint hdestination hts =>
    refine ⟨m', gives_seeded (by decide) (hprogram (by decide)) hseeds ?_⟩
    have htranches := @tranches_blueprintOf items .create ts hts
    show (blueprintOf items .create).creation s = _
    simp only [Blueprint.creation, htranches]
    simp only [blueprintOf, given?_key hmint, given?_key hdestination, Key.read_text]
    rfl
  | unlock hseeds => exact ⟨m', gives_seeded (by decide) (hprogram (by decide)) hseeds rfl⟩
  | changeDestination hseeds =>
    exact ⟨m', gives_seeded (by decide) (hprogram (by decide)) hseeds rfl⟩
  | empty =>
    refine ⟨m, Session.gives_orFail ?_⟩
    show Command.empty <$> readCount _ (.value (Item.lastNumber items).toNat) = _
    rw [readCount_lastNumber]
    rfl

theorem gives_run {args : List String} {request : Request} {level : Level} {e : Ending}
    (h : Request.read args = .ok (request, level)) (hrun : (request.run cast).Gives m e m') :
    (run cast args).Gives m e m' := by
  rw [run, h]
  exact Session.gives_tryCatch _ hrun

/-! ## 7. Decoding -/

/-- The arguments by which a text is given for decoding. -/
def decodeArgs (base64 strict : Bool) (text : String) : List String :=
  "decode" :: text :: ((if base64 then ["--base64"] else [])
    ++ if strict then ["--strict"] else [])

/-- The options for decoding. -/
def decodeOptions : Options where
  marks := [{ name := "base64" }, { name := "strict" }]

/-- The place for the text. -/
def dataPlace : Place := { name := "data" }

theorem read_decodeArgs {text : String} (base64 strict : Bool)
    (htext : text.toList.head? ≠ some '-') :
    ∃ level, Request.read (decodeArgs base64 strict text)
      = .ok (.decode text base64 strict, level) := by
  have hbase64 : Supplies decodeOptions "--base64" ("base64", .mark) :=
    @supplies_mark _ "--base64" { name := "base64" } (by decide) rfl rfl
  have hstrict : Supplies decodeOptions "--strict" ("strict", .mark) :=
    @supplies_mark _ "--strict" { name := "strict" } (by decide) rfl rfl
  have hback : ∃ behind, List.Forall₂ (Supplies decodeOptions)
      ((if base64 then ["--base64"] else []) ++ if strict then ["--strict"] else []) behind ∧
      Given.request? ⟨["decode"], ("data", .text text) :: behind, false⟩
        = some (.decode text base64 strict) := by
    cases base64 <;> cases strict
    · exact ⟨[], .nil, rfl⟩
    · exact ⟨_, .cons hstrict .nil, rfl⟩
    · exact ⟨_, .cons hbase64 .nil, rfl⟩
    · exact ⟨_, .cons hbase64 (.cons hstrict .nil), rfl⟩
  obtain ⟨behind, hsupplies, hrequest⟩ := hback
  have hclear : ∀ arg ∈ [] ++ ((if base64 then ["--base64"] else [])
      ++ if strict then ["--strict"] else []), readArgument grammar.options arg ≠ .ambiguous := by
    intro arg harg
    have harg' : arg = "--base64" ∨ arg = "--strict" := by
      cases base64 <;> cases strict <;> simp_all
    rcases harg' with rfl | rfl <;> exact nofun
  have hread : grammar.read (decodeArgs base64 strict text)
      = .ok ⟨["decode"], ("data", .text text) :: behind, false⟩ :=
    @Grammar.read_leaf _ decodeOptions _ dataPlace "decode" text [] _ [] _ (by decide) rfl htext
      (fun _ => rfl) hclear .nil hsupplies
  refine ⟨Given.threshold ⟨["decode"], ("data", .text text) :: behind, false⟩, ?_⟩
  rw [Request.read, hread]
  simp only [hrequest]

theorem gives_decode {base64 : Bool} {mark : String} (hmark : mark ∈ Command.marks base64)
    (strict : Bool) (c : Command) :
    (run cast (decodeArgs base64 strict (mark ++ Ending.bytesText base64 c.encode))).Gives m
      (.done (Json.pretty c.toDatum)) m := by
  have hhead : (mark ++ Ending.bytesText base64 c.encode).toList.head? ≠ some '-' := fun h =>
    (Command.plain_bytesText hmark c.encode '-' (List.mem_of_mem_head? h)).2 rfl
  obtain ⟨level, hread⟩ := read_decodeArgs base64 strict hhead
  have hcommand : (Command.bytesOfText base64 (mark ++ Ending.bytesText base64 c.encode)
      >>= fun data => Command.decode strict data) = .ok c := by
    rw [Command.bytesOfText_bytesText hmark]
    exact Command.decode_encode strict c
  exact gives_run hread (Session.gives_bind (Session.gives_orFail hcommand) Session.gives_pure)

/-! ## 8. There and back -/

/-- **What is printed for a command is decoded, and what is shown is the command.**  The options
may stand in any order around the kind, and both runs end well.  The program whose seeds these are
has to be found, unless the kind has none. -/
theorem encoded_is_decoded (cast : Cast)
    (hprogram : kind ≠ .empty → (Ending.findProgram (Item.named? (front ++ back) "config")
      (Item.named? (front ++ back) "program-id")).Gives m program m')
    (h : Asks (front ++ back) program kind c) :
    (∃ m'', (run cast (encodeArgs front kind back)).Gives m
      { code := 0,
        output := Ending.bytesText (Item.inBase64 (front ++ back)) c.encode ++ "\n" } m'') ∧
    ∀ strict mark other machine, mark ∈ Command.marks (Item.inBase64 (front ++ back)) →
      (run other (decodeArgs (Item.inBase64 (front ++ back)) strict
        (mark ++ Ending.bytesText (Item.inBase64 (front ++ back)) c.encode))).Gives machine
          { code := 0, output := Json.pretty c.toDatum ++ "\n" } machine := by
  obtain ⟨m'', hbuild⟩ := gives_buildCommand hprogram h
  have hread : Request.read (encodeArgs front kind back) = .ok (.encode
      (blueprintOf (front ++ back) kind) (Item.inBase64 (front ++ back))
      (Item.named? (front ++ back) "config") (Item.named? (front ++ back) "program-id"),
      (givenBy front (wordOf kind) back).threshold) := by
    rw [Request.read, read_encodeArgs]
    simp only [request?_givenBy]
  refine ⟨⟨m'', gives_run hread (Session.gives_bind hbuild Session.gives_pure)⟩, ?_⟩
  intro strict mark other machine hmark
  exact gives_decode hmark strict c

end CommandLine

namespace Sample

/-- A machine with a home folder, and with nothing in it. -/
def desk : Machine := { env := { bindings := [("HOME", "/home/u")] } }

/-- Keys for a simulation; no command needs them. -/
def nobody : Cast :=
  ⟨Key.zero, Key.zero, Key.zero, Key.zero, Key.zero, Key.zero, Key.zero⟩

/-- What makes a contract, but for its first tranche. -/
def order : List CommandLine.Item :=
  [.seeds "short", .mint Key.tokenProgram.text, .destination Key.zero.text, .schedule "7:1_0"]

/-- The command that makes it. -/
def ordered : Command := .create phrased Key.tokenProgram Key.zero [⟨16, 5⟩, ⟨7, 10⟩]

end Sample

namespace CommandLine

theorem findProgram_desk :
    ∃ m', (Ending.findProgram none none).Gives Sample.desk Key.vestingProgram m' := ⟨_, by rfl⟩

/-- A contract of two tranches, one written in base sixteen and one with an underscore. -/
theorem encoded_is_decoded_create :
    (∃ m'', (run Sample.nobody (encodeArgs [.schedule "0x10: 5"] .create Sample.order)).Gives
      Sample.desk { code := 0, output := Hex.encode Sample.ordered.encode ++ "\n" } m'') ∧
    (run Sample.nobody (decodeArgs false true ("0X" ++ Hex.encode Sample.ordered.encode))).Gives
      Sample.desk { code := 0, output := Json.pretty Sample.ordered.toDatum ++ "\n" }
      Sample.desk := by
  have hresolve : Seeds.resolve "short" Key.vestingProgram
      = .ok (Sample.phrased, Sample.phrasedHome) := by
    decide +kernel
  have hliteral {s : String} {n : Nat}
      (h : Text.IntegerLiteral.parse (Text.trim s.toList) = .ok n) : Word64.Denotes (.text s) n :=
    .text (Text.IntegerLiteral.parse_trim_eq_ok_iff.1 h)
  have hts : List.Forall₂ Tranche.IsWritten
      (Item.texts ([.schedule "0x10: 5"] ++ Sample.order) "schedule") [⟨16, 5⟩, ⟨7, 10⟩] :=
    .cons ⟨"0x10", " 5", by decide, hliteral (by decide +kernel), hliteral (by decide +kernel)⟩
      (.cons ⟨"7", "1_0", by decide, hliteral (by decide +kernel), hliteral (by decide +kernel)⟩
        .nil)
  have hasks : Asks ([.schedule "0x10: 5"] ++ Sample.order) Key.vestingProgram .create
      Sample.ordered :=
    .create ⟨"short", Sample.phrasedHome, rfl, by decide, hresolve⟩ rfl rfl hts
  obtain ⟨m', hfound⟩ := findProgram_desk
  have hprogram : (Ending.findProgram
      (Item.named? ([.schedule "0x10: 5"] ++ Sample.order) "config")
      (Item.named? ([.schedule "0x10: 5"] ++ Sample.order) "program-id")).Gives Sample.desk
        Key.vestingProgram m' := by
    have hconfig : Item.named? ([.schedule "0x10: 5"] ++ Sample.order) "config" = none := rfl
    have hid : Item.named? ([.schedule "0x10: 5"] ++ Sample.order) "program-id" = none := rfl
    rw [hconfig, hid]
    exact hfound
  have hhex : Item.inBase64 ([.schedule "0x10: 5"] ++ Sample.order) = false := rfl
  obtain ⟨hencode, hdecode⟩ := encoded_is_decoded Sample.nobody (fun _ => hprogram) hasks
  rw [hhex] at hencode hdecode
  exact ⟨hencode, hdecode true "0X" Sample.nobody Sample.desk (by decide)⟩

/-- **Two dashes are a phrase that leads to seeds, and attached to their option they are lost.** -/
theorem encode_dashes :
    (∃ m', (Ending.findProgram none none).Gives Sample.desk Key.vestingProgram m') ∧
    (∃ s address, Seeds.resolve "--" Key.vestingProgram = .ok (s, address)) ∧
    (run Sample.nobody ["encode", "unlock", "--seeds=--"]).Gives Sample.desk
      { code := 1, output := "--seeds is required for unlock\n" } Sample.desk := by
  have hresolve : (Seeds.resolve "--" Key.vestingProgram).isOk = true := by decide +kernel
  refine ⟨findProgram_desk, ?_, by rfl⟩
  cases h : Seeds.resolve "--" Key.vestingProgram with
  | error why =>
    rw [h] at hresolve
    cases hresolve
  | ok found => exact ⟨found.1, found.2, rfl⟩

end CommandLine
end Vesting
