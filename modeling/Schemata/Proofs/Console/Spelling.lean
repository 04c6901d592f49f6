import Schemata.Console.Reading
import Schemata.Proofs.Lookup

/-!
# Spellings

An option with its value can be spelled in one word or in two, with its long name or its letter,
and with or without an equals sign.  Whichever is chosen, a place of the command line that has the
option reads the same.

* `Argument.Spelled`, `Argument.AllSpelled` — the words that spell an argument with its value, and
  those for arguments in a row;
* `Form.IsClear` — the names of a place tell its options apart;
* `Reading.Settles` — what is given once nothing is open.  The value of an option may still be open
  when the next word comes, so readings that are told apart by it can settle alike;
* `Form.readFrom_spelled` — one argument, in any spelling;
* `Form.readFrom_all_spelled` — arguments in a row.
-/

namespace Schemata

/-! ### Words -/

/-- A text that is taken for a value wherever it stands: it is not empty, and does not start with a
hyphen or an equals sign. -/
def IsPlain (v : String) : Prop :=
  ∃ c cs, v.toList = c :: cs ∧ c ≠ '-' ∧ c ≠ '='

namespace Argument

/-- Whether the argument is a flag that changes what a command does. -/
def isSwitch : Argument → Bool
  | .strict | .verbose | .seed | .json => true
  | _ => false

/-- The words that spell an argument with its value, which is empty for a flag. -/
inductive Spelled : Argument → String → List String → Prop
  /-- The long name, an equals sign and the value. -/
  | longEquals {a : Argument} {name : String} (ha : a.long? = some name)
    (ht : a.takesValue = true) (v : String) : Spelled a v ["--" ++ name ++ "=" ++ v]
  /-- The long name, and the value as the next word. -/
  | longNext {a : Argument} {name v : String} (ha : a.long? = some name)
    (ht : a.takesValue = true) (hv : IsPlain v) : Spelled a v ["--" ++ name, v]
  /-- The letter and the value. -/
  | shortJoined {a : Argument} {letter : Char} {v : String} (ha : a.short? = some letter)
    (ht : a.takesValue = true) (hv : IsPlain v) : Spelled a v ["-" ++ letter.toString ++ v]
  /-- The letter, an equals sign and the value. -/
  | shortEquals {a : Argument} {letter : Char} (ha : a.short? = some letter)
    (ht : a.takesValue = true) (v : String) : Spelled a v ["-" ++ letter.toString ++ "=" ++ v]
  /-- The letter, and the value as the next word. -/
  | shortNext {a : Argument} {letter : Char} {v : String} (ha : a.short? = some letter)
    (ht : a.takesValue = true) (hv : IsPlain v) : Spelled a v ["-" ++ letter.toString, v]
  /-- The long name of a flag. -/
  | longSwitch {a : Argument} {name : String} (ha : a.long? = some name)
    (hs : a.isSwitch = true) : Spelled a "" ["--" ++ name]
  /-- The letter of a flag. -/
  | shortSwitch {a : Argument} {letter : Char} (ha : a.short? = some letter)
    (hs : a.isSwitch = true) : Spelled a "" ["-" ++ letter.toString]

/-- The words that spell arguments with their values, one after the other. -/
inductive AllSpelled : List (Argument × String) → List String → Prop
  /-- No words for no arguments. -/
  | nil : AllSpelled [] []
  /-- The words for the first argument and those for the others. -/
  | cons {a : Argument} {v : String} {spelling : List String} {given : List (Argument × String)}
    {words : List String} (h : a.Spelled v spelling) (hs : AllSpelled given words) :
    AllSpelled ((a, v) :: given) (spelling ++ words)

namespace AllSpelled

variable {given given' : List (Argument × String)} {words words' : List String}

theorem append (hs : AllSpelled given words) (hs' : AllSpelled given' words') :
    AllSpelled (given ++ given') (words ++ words') := by
  induction hs with
  | nil => exact hs'
  | cons h _ ih =>
    rw [List.cons_append, List.append_assoc]
    exact .cons h ih

theorem singleton {a : Argument} {v : String} (h : a.Spelled v words) :
    AllSpelled [(a, v)] words := by
  simpa using AllSpelled.cons h .nil

/-- A flag is spelled if it is wanted. -/
theorem switch {a : Argument} (h : a.Spelled "" words) (wanted : Bool) :
    AllSpelled (if wanted then [(a, "")] else []) (if wanted then words else []) := by
  cases wanted with
  | false => exact .nil
  | true => exact .singleton h

end AllSpelled

variable {a : Argument} {name : String} {letter : Char}

theorem takesValue_of_isSwitch (h : a.isSwitch = true) : a.takesValue = false := by
  cases a <;> first | rfl | cases h

theorem long?_ne_nil (h : a.long? = some name) : name.toList ≠ [] := by
  cases a <;> cases h <;> decide

theorem not_mem_long? (h : a.long? = some name) : '=' ∉ name.toList := by
  cases a <;> cases h <;> decide

theorem short?_ne (h : a.short? = some letter) : letter ≠ '-' := by
  cases a <;> cases h <;> decide

end Argument

/-! ### What is given -/

namespace Reading

variable {r : Reading} {a : Argument} {v : String} {given : List (Argument × String)}
  {words : List Argument}

/-- The reading comes to these arguments and words once nothing is open. -/
def Settles (r : Reading) (given : List (Argument × String)) (words : List Argument) : Prop :=
  r.settle = .ok { given, words }

/-- An argument that is not given yet can be given with a value that it accepts. -/
theorem giveValue_of_not_mem (hnew : a ∉ given.map Prod.fst) (hv : a.accepts v = true)
    (words : List Argument) :
    ({ given, words } : Reading).giveValue a (some v) =
      .ok { given := given ++ [(a, v)], words } := by
  simp [giveValue, has, value?, Lookup.eq_none_of_not_mem hnew, hv]

theorem giveFlag_of_not_mem (hnew : a ∉ given.map Prod.fst) (hs : a.isSwitch = true)
    (words : List Argument) :
    ({ given, words } : Reading).giveFlag a = .ok { given := given ++ [(a, "")], words } := by
  have hnone := Lookup.eq_none_of_not_mem hnew
  cases a <;> simp only [Argument.isSwitch, reduceCtorEq] at hs <;>
    simp [giveFlag, has, value?, hnone]

namespace Settles

theorem nothing (given : List (Argument × String)) (words : List Argument) :
    Settles { given, words } given words :=
  rfl

/-- An argument that is open settles with its value. -/
theorem opened (hnew : a ∉ given.map Prod.fst) (hv : a.accepts v = true) (words : List Argument) :
    Settles { given, words, opened := some (a, some v) } (given ++ [(a, v)]) words :=
  giveValue_of_not_mem hnew hv words

variable (h : r.Settles given words)
include h

/-- No option waits for its value. -/
theorem awaitsValue : r.awaitsValue = false := by
  obtain ⟨_, opened, _⟩ := r
  rcases opened with _ | ⟨a, _ | v⟩
  · rfl
  · cases h
  · rfl

theorem takeValue (hnew : a ∉ given.map Prod.fst) (hv : a.accepts v = true) :
    r.takeValue a v = .ok { given := given ++ [(a, v)], words } := by
  rw [Reading.takeValue, h]
  exact giveValue_of_not_mem hnew hv words

theorem takeFlag (hnew : a ∉ given.map Prod.fst) (hs : a.isSwitch = true) :
    r.takeFlag a = .ok { given := given ++ [(a, "")], words } := by
  rw [Reading.takeFlag, h]
  exact giveFlag_of_not_mem hnew hs words

theorem leaveOpen (a : Argument) (v : Option String) :
    r.leaveOpen a v = .ok { given, words, opened := some (a, v) } := by
  rw [Reading.leaveOpen, h]
  rfl

end Settles

end Reading

/-! ### Reading spellings -/

namespace Form

open Reading

variable {f : Form} {r : Reading} {a : Argument} {v arg : String} {text : List Char} {c : Char}

/-- The names of the options tell them apart. -/
def IsClear (f : Form) : Prop :=
  ∀ a ∈ f.options, (∀ name, a.long? = some name → f.long? name = some a) ∧
    ∀ letter, a.short? = some letter → f.short? letter = some a

theorem isClear_top : top.IsClear := by
  simp [IsClear, top, long?, short?, Argument.long?, Argument.short?]

theorem isClear_ofVerb (v : Verb) : (ofVerb v).IsClear := by
  cases v <;> simp [IsClear, ofVerb, long?, short?, Argument.long?, Argument.short?]

theorem splitEquals_of_not_mem (h : '=' ∉ text) : splitEquals text = (text, none) := by
  induction text with
  | nil => rfl
  | cons c cs ih =>
    obtain ⟨hc, hcs⟩ := not_or.1 (List.mem_cons.not.1 h)
    simp [splitEquals, Ne.symm hc, ih hcs]

theorem splitEquals_append (h : '=' ∉ text) (value : List Char) :
    splitEquals (text ++ '=' :: value) = (text, some value) := by
  induction text with
  | nil => rfl
  | cons c cs ih =>
    obtain ⟨hc, hcs⟩ := not_or.1 (List.mem_cons.not.1 h)
    simp [splitEquals, Ne.symm hc, ih hcs]

/-! #### Words with hyphens -/

theorem toList_long (name : String) : ("--" ++ name).toList = '-' :: '-' :: name.toList := by
  simp

theorem toList_longEquals (name v : String) :
    ("--" ++ name ++ "=" ++ v).toList = '-' :: '-' :: (name.toList ++ '=' :: v.toList) := by
  simp

theorem toList_short (letter : Char) : ("-" ++ letter.toString).toList = ['-', letter] := by
  simp

theorem toList_shortJoined (letter : Char) (v : String) :
    ("-" ++ letter.toString ++ v).toList = '-' :: letter :: v.toList := by
  simp

theorem toList_shortEquals (letter : Char) (v : String) :
    ("-" ++ letter.toString ++ "=" ++ v).toList = '-' :: letter :: '=' :: v.toList := by
  simp

theorem verb?_eq_none (f : Form) (h : arg.toList.head? = some '-') : f.verb? arg = none := by
  have hno : ∀ v ∈ Verb.all, ¬ (v.word == arg) = true := by
    rintro v - heq
    have hword : v.word.toList.head? ≠ some '-' := by cases v <;> decide
    exact hword (by rw [eq_of_beq heq, h])
  simp [verb?, Verb.ofWord?, List.find?_eq_none.2 hno]

theorem readFrom_long (h : arg.toList = '-' :: '-' :: text) (hne : text ≠ [])
    (r : Reading) (rest : List String) :
    f.readFrom r false (arg :: rest) =
      (f.readLong r text).bind fun r => f.readFrom r false rest := by
  obtain ⟨c, cs, rfl⟩ := List.exists_cons_of_ne_nil hne
  have hverb : f.verb? arg = none := f.verb?_eq_none (by simp [h])
  simp [readFrom, hverb, h, Shape.of]

theorem readFrom_short (h : arg.toList = '-' :: c :: text) (hc : c ≠ '-')
    (r : Reading) (rest : List String) :
    f.readFrom r false (arg :: rest) =
      (f.readShort r (c :: text)).bind fun r => f.readFrom r false rest := by
  have hverb : f.verb? arg = none := f.verb?_eq_none (by simp [h])
  simp [readFrom, hverb, h, Shape.of, hc]

/-- An option that waits for its value takes the next word. -/
theorem readFrom_value (hv : IsPlain v) (given : List (Argument × String))
    (words : List Argument) (a : Argument) (rest : List String) :
    f.readFrom { given, words, opened := some (a, none) } false (v :: rest) =
      f.readFrom { given, words, opened := some (a, some v) } false rest := by
  obtain ⟨c, cs, hcs, hc, -⟩ := hv
  simp [readFrom, Reading.awaitsValue, hcs, Shape.of, hc]

/-! #### Options and flags -/

variable {name : String} {letter : Char} {given : List (Argument × String)}
  {words : List Argument}

theorem readLong_equals (hname : f.long? name = some a) (hno : '=' ∉ name.toList)
    (ht : a.takesValue = true) (r : Reading) (v : String) :
    f.readLong r (name.toList ++ '=' :: v.toList) = r.takeValue a v := by
  simp [readLong, splitEquals_append hno, hname, ht]

theorem readLong_next (hname : f.long? name = some a) (hno : '=' ∉ name.toList)
    (ht : a.takesValue = true) (r : Reading) :
    f.readLong r name.toList = r.leaveOpen a none := by
  simp [readLong, splitEquals_of_not_mem hno, hname, ht]

theorem readLong_switch (hname : f.long? name = some a) (hno : '=' ∉ name.toList)
    (ht : a.takesValue = false) (r : Reading) :
    f.readLong r name.toList = r.takeFlag a := by
  simp [readLong, splitEquals_of_not_mem hno, hname, ht]

theorem readShort_joined (hletter : f.short? letter = some a) (ht : a.takesValue = true)
    (hv : IsPlain v) (r : Reading) : f.readShort r (letter :: v.toList) = r.takeValue a v := by
  obtain ⟨c, cs, hcs, -, hc⟩ := hv
  have hv : String.ofList (c :: cs) = v := by rw [← hcs, String.ofList_toList]
  simp [readShort, hletter, ht, hcs, hc, hv]

theorem readShort_equals (hletter : f.short? letter = some a) (ht : a.takesValue = true)
    (r : Reading) (v : String) :
    f.readShort r (letter :: '=' :: v.toList) = r.takeValue a v := by
  simp [readShort, hletter, ht]

theorem readShort_next (hletter : f.short? letter = some a) (ht : a.takesValue = true)
    (r : Reading) : f.readShort r [letter] = r.leaveOpen a none := by
  simp [readShort, hletter, ht]

theorem readShort_switch (hletter : f.short? letter = some a) (ht : a.takesValue = false)
    (r : Reading) : f.readShort r [letter] = r.takeFlag a := by
  cases h : r.takeFlag a <;> simp [readShort, hletter, ht, h, Except.bind]

/-- An argument that is not given yet is read alike in every spelling. -/
theorem readFrom_spelled (hclear : f.IsClear) (h : r.Settles given words) (ha : a ∈ f.options)
    (hnew : a ∉ given.map Prod.fst) (hv : a.accepts v = true) {spelling : List String}
    (hs : a.Spelled v spelling) (rest : List String) :
    ∃ r' : Reading, r'.Settles (given ++ [(a, v)]) words ∧
      f.readFrom r false (spelling ++ rest) = f.readFrom r' false rest := by
  obtain ⟨hlong, hshort⟩ := hclear a ha
  have hwaits : Settles { given, words, opened := some (a, some v) } (given ++ [(a, v)]) words :=
    .opened hnew hv words
  -- in one word the value is settled at once; in two the option stays open with it
  cases hs with
  | longEquals hname ht =>
    refine ⟨_, .nothing _ _, ?_⟩
    rw [List.singleton_append, readFrom_long (toList_longEquals _ _) (by simp),
      readLong_equals (hlong _ hname) (Argument.not_mem_long? hname) ht, h.takeValue hnew hv]
    rfl
  | longNext hname ht hplain =>
    refine ⟨_, hwaits, ?_⟩
    rw [List.cons_append, List.singleton_append,
      readFrom_long (toList_long _) (Argument.long?_ne_nil hname),
      readLong_next (hlong _ hname) (Argument.not_mem_long? hname) ht, h.leaveOpen]
    exact readFrom_value hplain given words a rest
  | shortJoined hletter ht hplain =>
    refine ⟨_, .nothing _ _, ?_⟩
    rw [List.singleton_append, readFrom_short (toList_shortJoined _ _) (Argument.short?_ne hletter),
      readShort_joined (hshort _ hletter) ht hplain, h.takeValue hnew hv]
    rfl
  | shortEquals hletter ht =>
    refine ⟨_, .nothing _ _, ?_⟩
    rw [List.singleton_append, readFrom_short (toList_shortEquals _ _) (Argument.short?_ne hletter),
      readShort_equals (hshort _ hletter) ht, h.takeValue hnew hv]
    rfl
  | shortNext hletter ht hplain =>
    refine ⟨_, hwaits, ?_⟩
    rw [List.cons_append, List.singleton_append,
      readFrom_short (toList_short _) (Argument.short?_ne hletter),
      readShort_next (hshort _ hletter) ht, h.leaveOpen]
    exact readFrom_value hplain given words a rest
  | longSwitch hname hs =>
    refine ⟨_, .nothing _ _, ?_⟩
    rw [List.singleton_append, readFrom_long (toList_long _) (Argument.long?_ne_nil hname),
      readLong_switch (hlong _ hname) (Argument.not_mem_long? hname)
        (Argument.takesValue_of_isSwitch hs), h.takeFlag hnew hs]
    rfl
  | shortSwitch hletter hs =>
    refine ⟨_, .nothing _ _, ?_⟩
    rw [List.singleton_append, readFrom_short (toList_short _) (Argument.short?_ne hletter),
      readShort_switch (hshort _ hletter) (Argument.takesValue_of_isSwitch hs),
      h.takeFlag hnew hs]
    rfl

/-- Different arguments in a row are all read, each in the spelling that it has. -/
theorem readFrom_all_spelled (hclear : f.IsClear) (h : r.Settles given words)
    {more : List (Argument × String)} {line : List String} (hs : Argument.AllSpelled more line)
    (hmore : ∀ g ∈ more, g.1 ∈ f.options ∧ g.1.accepts g.2 = true)
    (hnodup : ((given ++ more).map Prod.fst).Nodup) (rest : List String) :
    ∃ r' : Reading, r'.Settles (given ++ more) words ∧
      f.readFrom r false (line ++ rest) = f.readFrom r' false rest := by
  induction hs generalizing r given with
  | nil => exact ⟨r, by simpa using h, rfl⟩
  | @cons a v spelling more line hfirst hs ih =>
    obtain ⟨⟨ha, hv⟩, hrest⟩ := List.forall_mem_cons.1 hmore
    have hnew : a ∉ given.map Prod.fst := by
      rw [List.map_append, List.nodup_append] at hnodup
      exact fun hmem => hnodup.2.2 _ hmem _ List.mem_cons_self rfl
    obtain ⟨r₁, hr₁, hread₁⟩ := readFrom_spelled hclear h ha hnew hv hfirst (line ++ rest)
    obtain ⟨r₂, hr₂, hread₂⟩ := ih hr₁ hrest (by simpa using hnodup)
    refine ⟨r₂, by simpa using hr₂, ?_⟩
    rw [List.append_assoc, hread₁, hread₂]

end Form

end Schemata
