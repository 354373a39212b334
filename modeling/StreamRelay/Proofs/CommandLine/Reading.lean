import Mathlib.Tactic.Lemma
import StreamRelay.CommandLine.Parser
import StreamRelay.Proofs.CommandLine.Grammar

/-!
# What is read of a command line

The reader goes through the arguments once, from left to right, and keeps what it has read so far.
What it keeps is told here by the things that the arguments before have given, among them a value
that has not been looked at yet.

Main statement: the arguments that are read of a command line are what the command line gives, and
it gives a URL or asks for a scan, but not both (`exists_gives_of_parse`).
-/

namespace StreamRelay

/-- A computation that succeeds has succeeded in its first step, and gone on from its result. -/
lemma exists_of_bind_eq_ok {ε α β : Type} {x : Except ε α} {f : α → Except ε β} {b : β}
    (ok : x >>= f = .ok b) : ∃ a, x = .ok a ∧ f a = .ok b := by
  cases x with
  | error e => cases ok
  | ok a => exact ⟨a, rfl, ok⟩

namespace CommandLine

open Header (Field)

/-! ## What arguments ask for -/

namespace Item

def plain? : Item → Option String
  | plain arg => some arg
  | _ => none

def value? (v : Valued) : Item → Option String
  | valued w value => if w = v then some value else none
  | _ => none

def switch? : Item → Option Switch
  | plain _ => none
  | flag f => some (.flag f)
  | valued v _ => some (.valued v)

end Item

/-- The plain arguments among some things, in their order. -/
def plains (items : List Item) : List String := items.filterMap Item.plain?

/-- The values that an option is given among some things, in their order. -/
def valuesOf (v : Valued) (items : List Item) : List String := items.filterMap (Item.value? v)

/-- The options among some things, in their order. -/
def switches (items : List Item) : List Switch := items.filterMap Item.switch?

/-- Whether `n` is the number that the only value of an option stands for, or the one that it has
without a value. -/
def Sets (read : String → Option Nat) (fallback : Nat) (values : List String) (n : Nat) : Prop :=
  values = [] ∧ n = fallback ∨ ∃ value, values = [value] ∧ read value = some n

/-- Whether arguments have of an option what its values ask for. All options but the header fields
have one value at most. -/
def Has (a : Arguments) (values : List String) : Valued → Prop
  | .output => values = a.output.toList
  | .userAgent => values = a.userAgent.toList
  | .header => values.map Field.parse = a.headers.map .ok
  | .chunkSize => Sets word? 8192 values a.chunkSize
  | .connectTimeout => Sets seconds? 5 values a.connectTimeout
  | .readTimeout => Sets seconds? 30 values a.readTimeout

/-- Whether arguments are those that some things on a command line ask for. -/
structure Asks (items : List Item) (a : Arguments) : Prop where
  url : plains items = a.url.toList
  has : ∀ v, Has a (valuesOf v items) v
  scanStderr : a.scanStderr = true ↔ .flag .scanStderr ∈ items
  verbose : a.verbose = min (items.count (.flag .verbose)) maxCount
  quiet : a.quiet = true ↔ .flag .quiet ∈ items

/-- What becomes of arguments when one more thing is met on the command line. -/
inductive Puts (a : Arguments) : Item → Arguments → Prop where
  | url {arg : String} (none_ : a.url = none) : Puts a (.plain arg) { a with url := some arg }
  | scanStderr : Puts a (.flag .scanStderr) { a with scanStderr := true }
  | verbose : Puts a (.flag .verbose) { a with verbose := min (a.verbose + 1) maxCount }
  | quiet : Puts a (.flag .quiet) { a with quiet := true }
  | output {value : String} : Puts a (.valued .output value) { a with output := some value }
  | userAgent {value : String} :
    Puts a (.valued .userAgent value) { a with userAgent := some value }
  | header {value : String} {field : Field} (reads : Field.parse value = .ok field) :
    Puts a (.valued .header value) { a with headers := a.headers ++ [field] }
  | chunkSize {value : String} {n : Nat} (reads : word? value = some n) :
    Puts a (.valued .chunkSize value) { a with chunkSize := n }
  | connectTimeout {value : String} {n : Nat} (reads : seconds? value = some n) :
    Puts a (.valued .connectTimeout value) { a with connectTimeout := n }
  | readTimeout {value : String} {n : Nat} (reads : seconds? value = some n) :
    Puts a (.valued .readTimeout value) { a with readTimeout := n }

variable {a a' : Arguments} {v w : Valued} {value arg : String} {values args : List String}
  {i : Item} {items more front : List Item} {r r' r'' : Reading} {f : Flag}

/-- A value that an option can be set to is put into the arguments. -/
lemma Puts.of_setValue (put : setValue a v value = .ok a') : Puts a (.valued v value) a' := by
  cases v with
  | output =>
    simp only [setValue] at put
    split at put
    · cases put
    · cases put
      exact .output
  | userAgent =>
    cases put
    exact .userAgent
  | header =>
    simp only [setValue] at put
    split at put
    · next field reads =>
      cases put
      exact .header reads
    · cases put
  | chunkSize =>
    simp only [setValue] at put
    split at put
    · next n reads =>
      cases put
      exact .chunkSize reads
    · cases put
  | connectTimeout =>
    simp only [setValue] at put
    split at put
    · next n reads =>
      cases put
      exact .connectTimeout reads
    · cases put
  | readTimeout =>
    simp only [setValue] at put
    split at put
    · next n reads =>
      cases put
      exact .readTimeout reads
    · cases put

/-- An option that gets a value has it then, if it can have it besides those it has. -/
lemma Puts.has_self (puts : Puts a (.valued v value) a') (has : Has a values v)
    (once : Switch.isRepeatable (.valued v) = false → values = []) :
    Has a' (values ++ [value]) v := by
  cases puts with
  | header reads =>
    have fields : values.map Field.parse = a.headers.map .ok := has
    show (values ++ [value]).map Field.parse = (a.headers ++ [_]).map .ok
    rw [List.map_append, List.map_append, fields, List.map_singleton, reads]
    rfl
  | output | userAgent =>
    rw [once rfl]
    rfl
  | chunkSize reads | connectTimeout reads | readTimeout reads =>
    rw [once rfl]
    exact .inr ⟨value, rfl, reads⟩

/-- An option keeps what it has when something else is met. -/
lemma Puts.has_of_none (puts : Puts a i a') (has : Has a values w)
    (none_ : i.value? w = none) : Has a' values w := by
  cases puts <;> cases w <;> first | exact has | cases none_

/-- What is picked of one more thing comes behind what is picked of those before it. -/
lemma filterMap_concat {α : Type} (g : Item → Option α) (items : List Item) (i : Item) :
    (items ++ [i]).filterMap g = items.filterMap g ++ (g i).toList := by
  rw [List.filterMap_append, List.filterMap_cons]
  cases g i <;> rfl

/-- What has a value for an option is that option with the value. -/
lemma Item.value?_eq_some (got : i.value? w = some value) : i = .valued w value := by
  cases i with
  | valued v x =>
    simp only [value?] at got
    split at got
    · next same =>
      cases got
      rw [same]
    · cases got
  | plain | flag => cases got

namespace Asks

/-- Nothing asks for arguments without anything in them. -/
lemma nil : Asks [] {} where
  url := rfl
  has v := by cases v <;> first | rfl | exact .inl ⟨rfl, rfl⟩
  scanStderr := by simp
  verbose := rfl
  quiet := by simp

/-- One more thing that is put in is asked for behind those before it, if it may be. -/
lemma put (asks : Asks items a) (puts : Puts a i a')
    (once : ∀ v, i.switch? = some (.valued v) → Switch.isRepeatable (.valued v) = false →
      valuesOf v items = []) :
    Asks (items ++ [i]) a' where
  url := by
    have before := asks.url
    rw [plains, filterMap_concat]
    cases puts with
    | url none_ =>
      rw [none_] at before
      exact congrArg (· ++ [_]) before
    | _ => exact (List.append_nil _).trans before
  has w := by
    rw [valuesOf, filterMap_concat]
    cases got : i.value? w with
    | none =>
      rw [Option.toList_none, List.append_nil]
      exact puts.has_of_none (asks.has w) got
    | some value =>
      obtain rfl := Item.value?_eq_some got
      exact puts.has_self (asks.has w) (once w rfl)
  scanStderr := by cases puts <;> simp [asks.scanStderr]
  verbose := by
    cases puts with
    | verbose =>
      have before := asks.verbose
      simp only [List.count_append, List.count_singleton_self, maxCount] at before ⊢
      omega
    | _ => simp [asks.verbose]
  quiet := by cases puts <;> simp [asks.quiet]

end Asks

/-! ## What a reading has read -/

namespace Reading

/-- Whether a reading has looked at some things and at nothing else. -/
structure Holds (r : Reading) (items : List Item) : Prop where
  asks : Asks items r.arguments
  given : r.given = (switches items).reverse

/-- The value that a reading has still to look at. -/
def held (r : Reading) : List Item :=
  match r.pending with
  | some (v, some value) => [.valued v value]
  | _ => []

/-- The option whose value is still to come. -/
def waits (r : Reading) : Option Valued :=
  match r.pending with
  | some (v, none) => some v
  | _ => none

/-- Whether some things are what has been read so far. -/
def Reads (r : Reading) (items : List Item) : Prop :=
  ∃ front, r.Holds front ∧ items = front ++ r.held

/-- Whether a reading has gone on by some things, and waits then for the value of an option if there
is one. -/
structure Takes (r r' : Reading) (items : List Item) (v : Option Valued) : Prop where
  free : r.waits = none
  reads : ∀ front, r.Reads front → r'.Reads (front ++ items)
  waits : r'.waits = v
  ended : r'.ended = r.ended

/-- Where nothing is left to be looked at, all that was looked at is what has been read. -/
lemma Holds.reads (holds : r.Holds items) (none_ : r.pending = none) : r.Reads items :=
  ⟨items, holds, by simp [held, none_]⟩

/-- Where nothing is pending, no value is waited for. -/
lemma waits_of_none (none_ : r.pending = none) : r.waits = none := by
  simp [waits, none_]

/-- A reading that has gone on twice has gone on by both. -/
lemma Takes.trans {v : Option Valued} (takes : r.Takes r' front none)
    (takes' : r'.Takes r'' items v) : r.Takes r'' (front ++ items) v where
  free := takes.free
  reads before reads := by
    rw [← List.append_assoc]
    exact takes'.reads _ (takes.reads before reads)
  waits := takes'.waits
  ended := takes'.ended.trans takes.ended

/-- An option that has a value has been given. -/
lemma mem_switches_of_mem_valuesOf (mem : value ∈ valuesOf v items) :
    .valued v ∈ switches items := by
  obtain ⟨i, given, got⟩ := List.mem_filterMap.1 mem
  refine List.mem_filterMap.2 ⟨i, given, ?_⟩
  rw [Item.value?_eq_some got]
  rfl

/-- An option that has not been given has no value yet. -/
lemma Holds.valuesOf_eq_nil {u : Unit} (holds : r.Holds items)
    (once : r.checkOnce (.valued v) = .ok u) (single : Switch.isRepeatable (.valued v) = false) :
    valuesOf v items = [] := by
  rw [List.eq_nil_iff_forall_not_mem]
  intro value mem
  have given : .valued v ∈ r.given := by
    rw [holds.given, List.mem_reverse]
    exact mem_switches_of_mem_valuesOf mem
  simp [checkOnce, given, single] at once

/-- One more thing that is put in is looked at behind those before it. -/
lemma Holds.put (holds : r.Holds items) (puts : Puts r.arguments i r'.arguments)
    (given : r'.given = i.switch?.toList ++ r.given)
    (once : ∀ v, i.switch? = some (.valued v) → Switch.isRepeatable (.valued v) = false →
      valuesOf v items = []) : r'.Holds (items ++ [i]) where
  asks := holds.asks.put puts once
  given := by
    rw [given, switches, filterMap_concat, List.reverse_append, ← switches, ← holds.given]
    cases i.switch? <;> rfl

/-- A value that is looked at is read behind all that was looked at before. -/
lemma holds_of_give {value : Option String} (give : r.give v value = .ok r') :
    ∃ x, value = some x ∧ r'.pending = r.pending ∧ r'.ended = r.ended ∧
      ∀ items, r.Holds items → r'.Holds (items ++ [.valued v x]) := by
  cases value with
  | none => cases give
  | some x =>
    obtain ⟨u, once, give⟩ := exists_of_bind_eq_ok give
    obtain ⟨a, put, give⟩ := exists_of_bind_eq_ok give
    cases give
    refine ⟨x, rfl, rfl, rfl, fun items holds => ?_⟩
    refine holds.put (.of_setValue put) rfl ?once
    case once =>
      intro w same
      cases same
      exact holds.valuesOf_eq_nil once

/-- There is nothing left to be looked at behind what comes next. -/
lemma holds_of_resolve (resolve : r.resolve = .ok r') :
    r.waits = none ∧ r'.pending = none ∧ r'.ended = r.ended ∧
      ∀ items, r.Reads items → r'.Holds items := by
  unfold Reading.resolve at resolve
  split at resolve
  · next none_ =>
    cases resolve
    refine ⟨waits_of_none none_, none_, rfl, ?_⟩
    rintro _ ⟨front, holds, rfl⟩
    simpa [held, none_] using holds
  · next v value some_ =>
    obtain ⟨x, rfl, none_, ended, holds'⟩ := holds_of_give resolve
    refine ⟨by simp [waits, some_], none_, ended, ?_⟩
    rintro _ ⟨front, holds, rfl⟩
    simp only [held, some_]
    exact holds' front ⟨holds.asks, holds.given⟩

/-- A reading goes on by an option that has its value attached. -/
lemma takes_of_attach (attach : r.attach v value = .ok r') :
    r.Takes r' [.valued v value] none := by
  obtain ⟨r₁, resolve, give⟩ := exists_of_bind_eq_ok attach
  obtain ⟨free, none_, ended, holds⟩ := holds_of_resolve resolve
  obtain ⟨x, same, kept, ended', holds'⟩ := holds_of_give give
  cases same
  rw [none_] at kept
  exact {
    free
    reads := fun front reads => (holds' _ (holds _ reads)).reads kept
    waits := waits_of_none kept
    ended := ended'.trans ended }

/-- At an option whose value is still to come, a reading waits for that. -/
lemma takes_of_expect (expect : r.expect v = .ok r') : r.Takes r' [] (some v) := by
  obtain ⟨r₁, resolve, same⟩ := exists_of_bind_eq_ok expect
  obtain ⟨free, _, ended, holds⟩ := holds_of_resolve resolve
  cases same
  exact {
    free
    reads := fun front reads => ⟨front, ⟨(holds _ reads).asks, (holds _ reads).given⟩, rfl⟩
    waits := rfl
    ended }

/-- Neither help nor version is read, since they end the reading. -/
lemma takes_of_setFlag {isLong : Bool} (set : r.setFlag f isLong = .ok r') :
    r.Takes r' [.flag f] none := by
  obtain ⟨r₁, resolve, set⟩ := exists_of_bind_eq_ok set
  obtain ⟨free, none_, ended, holds⟩ := holds_of_resolve resolve
  obtain ⟨_, _, set⟩ := exists_of_bind_eq_ok set
  obtain ⟨a, puts, rfl⟩ : ∃ a, Puts r₁.arguments (.flag f) a ∧
      r' = { r₁ with given := .flag f :: r₁.given, arguments := a } := by
    cases f with
    | scanStderr =>
      cases set
      exact ⟨_, .scanStderr, rfl⟩
    | verbose =>
      cases set
      exact ⟨_, .verbose, rfl⟩
    | quiet =>
      cases set
      exact ⟨_, .quiet, rfl⟩
    | help | version => cases set
  refine { free, reads := ?reads, waits := waits_of_none none_, ended }
  case reads =>
    intro front reads
    have later := holds _ reads
    exact Holds.reads (later.put puts rfl fun _ same => nomatch same) none_

/-- A value that has not been looked at is no plain argument. -/
lemma plains_held (r : Reading) : plains r.held = [] := by
  unfold held
  split <;> rfl

/-- A reading goes on by a plain argument. -/
lemma takes_of_readPlain (read : r.readPlain arg = .ok r') : r.Takes r' [.plain arg] none := by
  unfold Reading.readPlain at read
  split at read
  · cases read
  · next absent =>
    obtain ⟨r₁, resolve, same⟩ := exists_of_bind_eq_ok read
    obtain ⟨free, none_, ended, holds⟩ := holds_of_resolve resolve
    cases same
    refine { free, reads := ?reads, waits := waits_of_none none_, ended }
    case reads =>
      intro front reads
      have later := holds _ reads
      obtain ⟨before, earlier, rfl⟩ := reads
      have none' : r₁.arguments.url = none := by
        rw [← Option.toList_eq_nil_iff, ← later.asks.url, plains, List.filterMap_append,
          List.append_eq_nil_iff]
        refine ⟨earlier.asks.url.trans ?_, r.plains_held⟩
        rw [Option.toList_eq_nil_iff]
        exact Option.not_isSome_iff_eq_none.1 absent
      exact Holds.reads (later.put (.url none') rfl fun _ same => nomatch same) none_

/-! ## Reading an argument -/

/-- A reading goes on by what a long option gives. -/
lemma takes_of_readLong {cs : List Char} (read : r.readLong cs = .ok r') :
    ∃ items v, Options ('-' :: '-' :: cs) items v ∧ r.Takes r' items v := by
  rcases Text.eq_or_exists_first '=' cs with lacks | ⟨front, back, rfl, lacks⟩
  · simp only [readLong, Text.takeWhile_of_not_mem lacks, Text.dropWhile_of_not_mem lacks] at read
    have whole : cs = (String.ofList cs).toList := String.toList_ofList.symm
    cases long : ofLong? (String.ofList cs) with
    | none =>
      rw [long] at read
      cases read
    | some s =>
      rw [long] at read
      rw [whole]
      cases s with
      | valued v => exact ⟨_, _, .apart long, takes_of_expect read⟩
      | flag f => exact ⟨_, _, .flag long, takes_of_setFlag read⟩
  · simp only [readLong, Text.takeWhile_of_first lacks, Text.dropWhile_of_first lacks] at read
    have whole : front = (String.ofList front).toList := String.toList_ofList.symm
    cases long : ofLong? (String.ofList front) with
    | none =>
      rw [long] at read
      cases read
    | some s =>
      rw [long] at read
      rw [whole]
      cases s with
      | valued v => exact ⟨_, _, .equals long, takes_of_attach read⟩
      | flag f => cases read

/-- A reading that waits for nothing has gone on by nothing. -/
lemma Takes.refl (free : r.waits = none) : r.Takes r [] none where
  free
  reads front reads := by rwa [List.append_nil]
  waits := free
  ended := rfl

/-- A reading goes on by what short options give. -/
lemma takes_of_readShort {cs : List Char} (free : cs = [] → r.waits = none)
    (read : r.readShort cs = .ok r') : ∃ items v, Cluster cs items v ∧ r.Takes r' items v := by
  fun_induction readShort r cs with
  | case1 r =>
    cases read
    exact ⟨_, _, .nil, .refl (free rfl)⟩
  | case2 => cases read
  | case3 r c v short => exact ⟨_, _, .apart short, takes_of_expect read⟩
  | case4 r c v value short => exact ⟨_, _, .equals short, takes_of_attach read⟩
  | case5 r c v cs some_ other short =>
    cases cs with
    | nil => exact absurd rfl some_
    | cons d value =>
      have sign : d ≠ '=' := by
        rintro rfl
        exact other value rfl
      exact ⟨_, _, .joined short sign, takes_of_attach read⟩
  | case6 r c cs f short ih =>
    obtain ⟨r₁, set, read⟩ := exists_of_bind_eq_ok read
    have takes := takes_of_setFlag set
    obtain ⟨items, v, cluster, takes'⟩ := ih r₁ (fun _ => takes.waits) read
    exact ⟨_, _, .flag short cluster, takes.trans takes'⟩

/-- What does not have a dash with something behind it looks like no option. -/
lemma isPlain_of_ne (other : ∀ c cs, arg.toList ≠ '-' :: c :: cs) : IsPlain arg := by
  rw [IsPlain]
  generalize arg.toList = cs at other ⊢
  rcases cs with _ | ⟨c, _ | ⟨d, cs⟩⟩
  · exact .inl (by simp)
  · by_cases dash : c = '-'
    · exact .inr (by rw [dash])
    · exact .inl (by simpa using dash)
  · refine .inl ?_
    rw [List.head?_cons, ne_eq, Option.some.injEq]
    rintro rfl
    exact other d cs rfl

/-- What comes of one more argument in front of the separator. It is the separator, or it is made of
options, or it looks like none and is then the value that is waited for, or else a plain one. -/
inductive Meets (r : Reading) (arg : String) (r' : Reading) : Prop where
  | separator (same : arg = "--") (ends : r' = { r with ended := true })
  | options {items : List Item} {v : Option Valued} (options : Options arg.toList items v)
      (takes : r.Takes r' items v)
  | value {v : Valued} (plain : IsPlain arg) (waits : r.waits = some v)
      (given : r' = { r with pending := some (v, some arg) })
  | plain (plain : IsPlain arg) (takes : r.Takes r' [.plain arg] none)

/-- What comes of an argument in front of the separator is one of these. -/
lemma Meets.of_read (front : r.ended = false) (read : r.read arg = .ok r') : r.Meets arg r' := by
  unfold Reading.read at read
  rw [if_neg (by simp [front])] at read
  split at read
  · next whole =>
    cases read
    refine .separator ?_ rfl
    rw [← String.toList_inj, whole]
    rfl
  · next cs _ whole =>
    obtain ⟨items, v, options, takes⟩ := takes_of_readLong read
    exact .options (whole ▸ options) takes
  · next c cs _ other whole =>
    obtain ⟨items, v, cluster, takes⟩ := takes_of_readShort (by simp) read
    exact .options (whole ▸ .shorts cluster) takes
  · next _ _ other =>
    have plain : IsPlain arg := isPlain_of_ne fun c cs whole => other c cs whole
    split at read
    · next v some_ =>
      cases read
      exact .value plain (by simp [waits, some_]) rfl
    · exact .plain plain (takes_of_readPlain read)

/-! ## Reading a command line -/

/-- What the rest of a command line gives behind an option whose value is still to come, or behind
none. -/
inductive Continues : Option Valued → List String → List Item → Prop where
  | none {args : List String} {items : List Item} (gives : Gives args items) :
    Continues none args items
  | value {v : Valued} {value : String} {args : List String} {items : List Item}
      (plain : IsPlain value) (gives : Gives args items) :
    Continues (some v) (value :: args) (.valued v value :: items)

/-- What options give and what continues them are given by both together. -/
lemma gives_of_continues {v : Option Valued} (options : Options arg.toList front v)
    (continues : Continues v args items) : Gives (arg :: args) (front ++ items) := by
  cases continues with
  | none gives => exact .options options gives
  | value plain gives => exact .value options plain gives

/-- Behind the separator all arguments are plain, and none is a value. -/
lemma reads_behind_separator (ended : r.ended = true) (read : args.foldlM Reading.read r = .ok r')
    (free : r'.waits = none) :
    r.waits = none ∧ ∀ items, r.Reads items → r'.Reads (items ++ args.map .plain) := by
  induction args generalizing r with
  | nil =>
    cases read
    exact ⟨free, fun items reads => by rwa [List.map_nil, List.append_nil]⟩
  | cons arg args ih =>
    rw [List.foldlM_cons] at read
    obtain ⟨r₁, first, rest⟩ := exists_of_bind_eq_ok read
    rw [Reading.read, if_pos ended] at first
    have takes := takes_of_readPlain first
    obtain ⟨_, reads⟩ := ih (takes.ended.trans ended) rest
    refine ⟨takes.free, fun items before => ?_⟩
    have all := reads _ (takes.reads items before)
    rwa [List.append_assoc] at all

/-- A value that was waited for is read behind the rest. -/
lemma Reads.awaited (reads : r.Reads items) (waits : r.waits = some v) (value : String) :
    Reads { r with pending := some (v, some value) } (items ++ [.valued v value]) := by
  obtain ⟨front, holds, rfl⟩ := reads
  have none_ : r.held = [] := by
    unfold Reading.waits at waits
    split at waits
    · next some_ => simp [held, some_]
    · cases waits
  rw [none_, List.append_nil]
  exact ⟨front, ⟨holds.asks, holds.given⟩, rfl⟩

/-- The separator itself is nothing that is read. -/
lemma Reads.behind (reads : r.Reads items) : Reads { r with ended := true } items := by
  obtain ⟨front, holds, rfl⟩ := reads
  exact ⟨front, ⟨holds.asks, holds.given⟩, rfl⟩

/-- What is read of a command line, from wherever the reading has come to, is what it gives. -/
lemma reads_of_foldlM (front : r.ended = false) (read : args.foldlM Reading.read r = .ok r')
    (free : r'.waits = none) :
    ∃ more, Continues r.waits args more ∧ ∀ items, r.Reads items → r'.Reads (items ++ more) := by
  induction args generalizing r with
  | nil =>
    cases read
    rw [free]
    exact ⟨[], .none .nil, fun items reads => by rwa [List.append_nil]⟩
  | cons arg args ih =>
    rw [List.foldlM_cons] at read
    obtain ⟨r₁, first, rest⟩ := exists_of_bind_eq_ok read
    cases Meets.of_read front first with
    | separator same ends =>
      subst same ends
      obtain ⟨none_, reads⟩ := reads_behind_separator rfl rest free
      rw [show r.waits = none from none_]
      exact ⟨_, .none (.separator args), fun items before => reads items before.behind⟩
    | @options here v options takes =>
      obtain ⟨more, continues, reads⟩ := ih (takes.ended.trans front) rest
      rw [takes.waits] at continues
      rw [takes.free]
      refine ⟨here ++ more, .none (gives_of_continues options continues), ?_⟩
      intro items before
      rw [← List.append_assoc]
      exact reads _ (takes.reads items before)
    | value plain waits given =>
      obtain ⟨more, continues, reads⟩ := ih (given ▸ front) rest
      subst given
      -- The value is there now, so that none is waited for behind it.
      cases continues with
      | none gives =>
        rw [waits]
        refine ⟨_, .value plain gives, fun items before => ?_⟩
        have all := reads _ (before.awaited waits arg)
        rwa [List.append_assoc] at all
    | plain plain takes =>
      obtain ⟨more, continues, reads⟩ := ih (takes.ended.trans front) rest
      rw [takes.waits] at continues
      rw [takes.free]
      cases continues with
      | none gives =>
        refine ⟨_, .none (.plain plain gives), fun items before => ?_⟩
        have all := reads _ (takes.reads items before)
        rwa [List.append_assoc] at all

/-- At the end nothing is left to be looked at, and there is either a URL or a scan. -/
lemma asks_of_finish (finish : r.finish = .ok a) :
    r.waits = none ∧ (∀ items, r.Reads items → Asks items a) ∧ a.url.isSome = !a.scanStderr := by
  obtain ⟨r₁, resolve, finish⟩ := exists_of_bind_eq_ok finish
  obtain ⟨free, _, _, holds⟩ := holds_of_resolve resolve
  have same : r₁.arguments = a ∧ a.url.isSome = !a.scanStderr := by
    simp only at finish
    split at finish
    · cases finish
    · cases finish
    · next scan missing =>
      cases finish
      refine ⟨rfl, ?_⟩
      cases url : r₁.arguments.url with
      | none =>
        cases asked : r₁.arguments.scanStderr with
        | false => exact absurd asked (missing url)
        | true => rfl
      | some url' =>
        cases asked : r₁.arguments.scanStderr with
        | false => rfl
        | true => exact absurd asked (scan url' url)
  obtain ⟨rfl, one⟩ := same
  exact ⟨free, fun items reads => (holds items reads).asks, one⟩

end Reading

/-- The arguments that are read of a command line are what it gives, and there is either a URL or a
scan. -/
theorem exists_gives_of_parse (accepted : parse args = .ok a) :
    ∃ items, Gives args items ∧ Asks items a ∧ a.url.isSome = !a.scanStderr := by
  obtain ⟨r, read, finish⟩ := exists_of_bind_eq_ok accepted
  obtain ⟨free, asks, one⟩ := Reading.asks_of_finish finish
  obtain ⟨items, continues, reads⟩ := Reading.reads_of_foldlM rfl read free
  have begun : Reading.Reads {} [] := ⟨[], ⟨.nil, rfl⟩, rfl⟩
  cases continues with
  | none gives => exact ⟨items, gives, asks items (reads [] begun), one⟩

/-- Who asks for a stream does not ask for a scan. -/
lemma scanStderr_of_url {url : String} (accepted : parse args = .ok a) (asked : a.url = some url) :
    a.scanStderr = false := by
  obtain ⟨_, _, _, one⟩ := exists_gives_of_parse accepted
  rw [asked] at one
  simpa using one.symm

/-- A command line without a URL is accepted only if it asks for a scan. -/
lemma scanStderr_of_none (accepted : parse args = .ok a) (absent : a.url = none) :
    a.scanStderr = true := by
  obtain ⟨_, _, _, one⟩ := exists_gives_of_parse accepted
  rw [absent] at one
  simpa using one.symm

end CommandLine

end StreamRelay
