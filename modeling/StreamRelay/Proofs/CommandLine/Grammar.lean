import StreamRelay.CommandLine.Arguments
import StreamRelay.Proofs.Text.Parts

/-!
# What a command line gives

The grammar of command lines, without a reader. A command line gives options and plain arguments in
any order. The value of an option is part of its argument or the next argument, short options can
share an argument, and behind the separator everything is plain.

Main statement: a command line gives one list of things at most (`Gives.unique`).
-/

namespace StreamRelay.CommandLine

/-- One thing that a command line gives. -/
inductive Item where
  | plain (arg : String)
  | flag (f : Flag)
  | valued (v : Valued) (value : String)
deriving DecidableEq, Repr

/-- What short options behind one dash give, and the option among them whose value is still to
come. Such an option is the last, since whatever stands behind it is its value. -/
inductive Cluster : List Char → List Item → Option Valued → Prop where
  | nil : Cluster [] [] none
  | flag {c : Char} {cs : List Char} {f : Flag} {items : List Item} {v : Option Valued}
      (short : ofShort? c = some (.flag f)) (rest : Cluster cs items v) :
      Cluster (c :: cs) (.flag f :: items) v
  | apart {c : Char} {v : Valued} (short : ofShort? c = some (.valued v)) :
      Cluster [c] [] (some v)
  | joined {c d : Char} {value : List Char} {v : Valued} (short : ofShort? c = some (.valued v))
      (other : d ≠ '=') :
      Cluster (c :: d :: value) [.valued v (String.ofList (d :: value))] none
  | equals {c : Char} {value : List Char} {v : Valued} (short : ofShort? c = some (.valued v)) :
      Cluster (c :: '=' :: value) [.valued v (String.ofList value)] none

/-- What an argument of options gives, and the option in it whose value is still to come. -/
inductive Options : List Char → List Item → Option Valued → Prop where
  | flag {name : String} {f : Flag} (long : ofLong? name = some (.flag f)) :
      Options ('-' :: '-' :: name.toList) [.flag f] none
  | apart {name : String} {v : Valued} (long : ofLong? name = some (.valued v)) :
      Options ('-' :: '-' :: name.toList) [] (some v)
  | equals {name : String} {value : List Char} {v : Valued}
      (long : ofLong? name = some (.valued v)) :
      Options ('-' :: '-' :: (name.toList ++ '=' :: value)) [.valued v (String.ofList value)] none
  | shorts {c : Char} {cs : List Char} {items : List Item} {v : Option Valued}
      (cluster : Cluster (c :: cs) items v) : Options ('-' :: c :: cs) items v

/-- Whether an argument does not look like an option: it has no dash at its start, or nothing
else. -/
def IsPlain (arg : String) : Prop := arg.toList.head? ≠ some '-' ∨ arg.toList = ['-']

/-- What the arguments of a command line give. -/
inductive Gives : List String → List Item → Prop where
  | nil : Gives [] []
  | separator (args : List String) : Gives ("--" :: args) (args.map .plain)
  | plain {arg : String} {args : List String} {items : List Item} (plain : IsPlain arg)
      (rest : Gives args items) : Gives (arg :: args) (.plain arg :: items)
  | options {arg : String} {args : List String} {front items : List Item}
      (options : Options arg.toList front none) (rest : Gives args items) :
      Gives (arg :: args) (front ++ items)
  | value {arg value : String} {args : List String} {front items : List Item} {v : Valued}
      (options : Options arg.toList front (some v)) (plain : IsPlain value)
      (rest : Gives args items) : Gives (arg :: value :: args) (front ++ .valued v value :: items)

/-! ## There is no other way to take a command line

An argument of options determines what it gives, and it neither looks like a plain one nor like the
separator. -/

/-- What short options behind one dash give, as a function. -/
def clusterForm : List Char → Option (List Item × Option Valued)
  | [] => some ([], none)
  | c :: cs =>
    match ofShort? c, cs with
    | none, _ => none
    | some (.flag f), cs => (clusterForm cs).map fun (items, v) => (.flag f :: items, v)
    | some (.valued v), [] => some ([], some v)
    | some (.valued v), d :: value =>
      some ([.valued v (String.ofList (if d = '=' then value else d :: value))], none)

/-- What an argument of options gives, as a function. -/
def form : List Char → Option (List Item × Option Valued)
  | '-' :: '-' :: cs =>
    match ofLong? (String.ofList (cs.takeWhile (· != '='))), cs.dropWhile (· != '=') with
    | some (.flag f), [] => some ([.flag f], none)
    | some (.valued v), [] => some ([], some v)
    | some (.valued v), _ :: value => some ([.valued v (String.ofList value)], none)
    | _, _ => none
  | '-' :: c :: cs => clusterForm (c :: cs)
  | _ => none

variable {arg name : String} {args : List String} {cs : List Char} {items items' : List Item}
  {v v' : Option Valued} {s : Switch}

/-- A long name that stands for a switch is one of the table. -/
lemma exists_entry_of_ofLong? (long : ofLong? name = some s) : ∃ e ∈ entries, e.long = name := by
  obtain ⟨e, found, _⟩ := Option.map_eq_some_iff.1 long
  exact ⟨e, List.mem_of_find?_eq_some found, by simpa using List.find?_some found⟩

/-- No long name has the sign in it that stands before a value. -/
lemma not_mem_of_ofLong? (long : ofLong? name = some s) : '=' ∉ name.toList := by
  obtain ⟨e, mem, rfl⟩ := exists_entry_of_ofLong? long
  have all : ∀ e ∈ entries, '=' ∉ e.long.toList := by decide +kernel
  exact all e mem

/-- No switch has a dash for its short name. -/
lemma ofShort?_dash : ofShort? '-' = none := by decide +kernel

/-- What short options give is what the function says. -/
lemma Cluster.eq_form (cluster : Cluster cs items v) : clusterForm cs = some (items, v) := by
  induction cluster with
  | nil => rfl
  | flag short _ ih => simp [clusterForm, short, ih]
  | apart short => simp [clusterForm, short]
  | joined short other => simp [clusterForm, short, other]
  | equals short => simp [clusterForm, short]

/-- Short options do not begin with a second dash. -/
lemma Cluster.ne_dash {c : Char} (cluster : Cluster (c :: cs) items v) : c ≠ '-' := by
  rintro rfl
  cases cluster with
  | flag short | apart short | joined short | equals short =>
    rw [ofShort?_dash] at short
    cases short

namespace Options

/-- What an argument of options gives is what the function says. -/
lemma eq_form (options : Options cs items v) : form cs = some (items, v) := by
  cases options with
  | flag long | apart long =>
    have lacks := not_mem_of_ofLong? long
    simp only [form, Text.takeWhile_of_not_mem lacks, Text.dropWhile_of_not_mem lacks,
      String.ofList_toList, long]
  | equals long =>
    have lacks := not_mem_of_ofLong? long
    simp only [form, Text.takeWhile_of_first lacks, Text.dropWhile_of_first lacks,
      String.ofList_toList, long]
  | @shorts c cs items v cluster =>
    have short := cluster.ne_dash
    simp [form, cluster.eq_form]

/-- An argument of options gives one thing only. -/
lemma unique (options : Options cs items v) (options' : Options cs items' v') :
    items = items' ∧ v = v' := by
  have same := options.eq_form.symm.trans options'.eq_form
  rw [Option.some.injEq, Prod.mk.injEq] at same
  exact same

/-- An argument of options does not look like a plain one. -/
lemma not_isPlain (options : Options arg.toList items v) : ¬IsPlain arg := by
  generalize whole : arg.toList = cs at options
  cases options <;> simp [IsPlain, whole]

/-- An argument of options is not the separator. -/
lemma ne_separator (options : Options arg.toList items v) : arg ≠ "--" := by
  rintro rfl
  have none_ : form ['-', '-'] = none := by decide +kernel
  have some_ := options.eq_form
  rw [show "--".toList = ['-', '-'] from rfl, none_] at some_
  cases some_

end Options

/-- The separator does not look like a plain argument. -/
lemma not_isPlain_separator : ¬IsPlain "--" := by
  simp [IsPlain]

/-- A command line can be taken in one way only. -/
theorem Gives.unique (gives : Gives args items) (gives' : Gives args items') : items = items' := by
  -- An argument tells by its look which rule it goes by, so that the other rules are excluded.
  induction gives generalizing items' with
  | nil =>
    cases gives'
    rfl
  | separator args =>
    cases gives' with
    | separator => rfl
    | plain plain => exact absurd plain not_isPlain_separator
    | options options | value options => exact absurd rfl options.ne_separator
  | plain plain _ ih =>
    cases gives' with
    | separator => exact absurd plain not_isPlain_separator
    | plain _ rest' => rw [ih rest']
    | options options | value options => exact absurd plain options.not_isPlain
  | options options _ ih =>
    cases gives' with
    | separator => exact absurd rfl options.ne_separator
    | plain plain => exact absurd plain options.not_isPlain
    | options options' rest' =>
      obtain ⟨rfl, _⟩ := options.unique options'
      rw [ih rest']
    | value options' =>
      obtain ⟨_, same⟩ := options.unique options'
      cases same
  | value options _ _ ih =>
    cases gives' with
    | separator => exact absurd rfl options.ne_separator
    | plain plain => exact absurd plain options.not_isPlain
    | options options' =>
      obtain ⟨_, same⟩ := options.unique options'
      cases same
    | value options' _ rest' =>
      obtain ⟨rfl, same⟩ := options.unique options'
      cases same
      rw [ih rest']

/-- A command line that gives something gives nothing else. -/
lemma Gives.iff (gives : Gives args items) : Gives args items' ↔ items' = items := by
  constructor
  · exact fun gives' => gives'.unique gives
  · rintro rfl
    exact gives

end StreamRelay.CommandLine
