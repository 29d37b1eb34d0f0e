import Mathlib.Data.List.Basic
import Mathlib.Data.List.Forall2
import Mathlib.Tactic.SplitIfs

/-!
# Backtracking regular expressions

Patterns over a type of symbols, and the matches of a pattern at the start of
a text in the order in which a backtracking matcher with greedy repetitions
comes to them.  A search takes the first match at the leftmost place that has
one.  What a match is made of is read off the pattern.
-/

namespace Regex

/-- A regular expression.  Groups stand outside repetitions. -/
inductive Pattern (α : Type)
  | empty
  | one (accepts : α → Bool)
  | atEnd (ends : List α → Bool)
  | append (first second : Pattern α)
  | either (first second : Pattern α)
  | many (least : Nat) (most : Option Nat) (body : Pattern α)
  | group (body : Pattern α)

/-- The groups of a match, the symbols it takes and the text after them. -/
@[ext]
structure Match (α : Type) where
  groups : List (List α)
  consumed : List α
  rest : List α

variable {α : Type}

def Match.append (first second : Match α) : Match α where
  groups := first.groups ++ second.groups
  consumed := first.consumed ++ second.consumed
  rest := second.rest

/-- Up to `extra` bodies one after the other, with as many as possible
first. -/
def upTo (body : List α → List (Match α)) :
    Nat → List α → List (Match α)
  | 0, text => [⟨[], [], text⟩]
  | extra + 1, text =>
      ((body text).flatMap fun found =>
        (upTo body extra found.rest).map found.append) ++ [⟨[], [], text⟩]

/-- At least `least` bodies and up to `extra` more. -/
def repeated (body : List α → List (Match α)) (extra : Nat) :
    Nat → List α → List (Match α)
  | 0, text => upTo body extra text
  | least + 1, text =>
      (body text).flatMap fun found =>
        (repeated body extra least found.rest).map found.append

namespace Pattern

/-- The matches at the start of a text in the order of the search. -/
def run : Pattern α → List α → List (Match α)
  | .empty, text => [⟨[], [], text⟩]
  | .one _, [] => []
  | .one accepts, symbol :: text =>
      if accepts symbol then [⟨[], [symbol], text⟩] else []
  | .atEnd ends, text => if ends text then [⟨[], [], text⟩] else []
  | .append first second, text =>
      (run first text).flatMap fun found =>
        (run second found.rest).map found.append
  | .either first second, text => run first text ++ run second text
  | .many least most body, text =>
      repeated (run body) (most.getD text.length - least) least text
  | .group body, text =>
      (run body text).map fun found =>
        { found with groups := found.consumed :: found.groups }

-- The equations are made once here, before the proofs that use them.
attribute [local grind =] run upTo repeated

/-- The first match at the leftmost place. -/
def search (pattern : Pattern α) : List α → Option (Match α)
  | [] => (pattern.run []).head?
  | symbol :: text =>
      (pattern.run (symbol :: text)).head?.or (search pattern text)

/-- The patterns one after the other. -/
def sequence (patterns : List (Pattern α)) : Pattern α :=
  patterns.foldr append empty

/-- A text itself. -/
def literal [DecidableEq α] (text : List α) : Pattern α :=
  sequence (text.map fun symbol => one fun other => other = symbol)

/-! ## What a match is made of -/

section Members

variable {found : Match α} {text : List α}

@[simp] theorem mem_run_empty :
    found ∈ (empty : Pattern α).run text ↔ found = ⟨[], [], text⟩ := by
  simp [run]

@[simp] theorem mem_run_one {accepts : α → Bool} :
    found ∈ (one accepts).run text ↔
      ∃ symbol rest, text = symbol :: rest ∧ accepts symbol = true ∧
        found = ⟨[], [symbol], rest⟩ := by
  cases text with
  | nil => simp [run]
  | cons symbol rest =>
      rw [run]
      split_ifs with accepted
      · simp [accepted]
      · simp only [List.not_mem_nil, false_iff]
        rintro ⟨_, _, same, taken, -⟩
        obtain ⟨rfl, rfl⟩ := List.cons.inj same
        exact accepted taken

@[simp] theorem mem_run_atEnd {ends : List α → Bool} :
    found ∈ (atEnd ends).run text ↔
      ends text = true ∧ found = ⟨[], [], text⟩ := by
  rw [run]
  split_ifs with ended <;> simp [ended]

theorem mem_run_append {first second : Pattern α} :
    found ∈ (append first second).run text ↔
      ∃ one ∈ first.run text, ∃ two ∈ second.run one.rest,
        found = one.append two := by
  simp only [run, List.mem_flatMap, List.mem_map, eq_comm]

theorem mem_run_either {first second : Pattern α} :
    found ∈ (either first second).run text ↔
      found ∈ first.run text ∨ found ∈ second.run text := by
  rw [run, List.mem_append]

theorem mem_run_group {body : Pattern α} :
    found ∈ (group body).run text ↔
      ∃ inner ∈ body.run text,
        found = ⟨inner.consumed :: inner.groups, inner.consumed,
          inner.rest⟩ := by
  simp only [run, List.mem_map, eq_comm]

end Members

end Pattern

/-! ## Repetitions -/

section Repetition

variable (body : List α → List (Match α))

/-- Matches follow one another from a text to what they leave of it. -/
def Follow : List α → List (Match α) → List α → Prop
  | text, [], rest => rest = text
  | text, first :: more, rest =>
      first ∈ body text ∧ Follow first.rest more rest

/-- A match is a chain of matches of the body, of an allowed length. -/
def Chained (allowed : Nat → Prop) (text : List α) (found : Match α) : Prop :=
  ∃ chain, Follow body text chain found.rest ∧ allowed chain.length ∧
    found.groups = (chain.map Match.groups).flatten ∧
    found.consumed = (chain.map Match.consumed).flatten

variable {body} {text : List α} {found : Match α}

theorem chained_zero :
    Chained body (fun number => number = 0) text found ↔
      found = ⟨[], [], text⟩ := by
  constructor
  · rintro ⟨chain, follows, none, groups, consumed⟩
    obtain rfl := List.length_eq_zero_iff.mp none
    exact Match.ext groups consumed follows
  · rintro rfl
    exact ⟨[], rfl, rfl, rfl, rfl⟩

theorem chained_succ
    {allowed : Nat → Prop}
    {later : List α → List (Match α)}
    (later_iff : ∀ text found,
      found ∈ later text ↔ Chained body allowed text found) :
    found ∈ ((body text).flatMap fun first =>
        (later first.rest).map first.append) ↔
      Chained body
        (fun number => ∃ fewer, number = fewer + 1 ∧ allowed fewer)
        text found := by
  simp only [List.mem_flatMap, List.mem_map, later_iff]
  constructor
  · rintro ⟨first, member, _, ⟨more, follows, within, groups, consumed⟩, rfl⟩
    refine ⟨first :: more, ⟨member, follows⟩, ⟨_, rfl, within⟩, ?_, ?_⟩
    · rw [Match.append, groups, List.map_cons, List.flatten_cons]
    · rw [Match.append, consumed, List.map_cons, List.flatten_cons]
  · rintro ⟨chain, follows, ⟨fewer, length, within⟩, groups, consumed⟩
    cases chain with
    | nil => cases length
    | cons first more =>
        obtain ⟨member, follows⟩ := follows
        obtain rfl : more.length = fewer := by simpa using length
        refine ⟨first, member, ⟨(more.map Match.groups).flatten,
          (more.map Match.consumed).flatten, found.rest⟩,
          ⟨more, follows, within, rfl, rfl⟩, ?_⟩
        exact Match.ext groups.symm consumed.symm rfl

theorem Chained.mono
    {allowed wider : Nat → Prop}
    (implies : ∀ number, allowed number → wider number)
    (chained : Chained body allowed text found) :
    Chained body wider text found := by
  obtain ⟨chain, follows, within, taken⟩ := chained
  exact ⟨chain, follows, implies _ within, taken⟩

theorem chained_or {first second : Nat → Prop} :
    Chained body (fun number => first number ∨ second number) text found ↔
      Chained body first text found ∨ Chained body second text found := by
  constructor
  · rintro ⟨chain, follows, within | within, taken⟩
    · exact Or.inl ⟨chain, follows, within, taken⟩
    · exact Or.inr ⟨chain, follows, within, taken⟩
  · rintro (chained | chained)
    · exact chained.mono fun _ => Or.inl
    · exact chained.mono fun _ => Or.inr

theorem mem_upTo {extra : Nat} :
    found ∈ upTo body extra text ↔
      Chained body (fun number => number ≤ extra) text found := by
  induction extra generalizing text found with
  | zero =>
      rw [upTo, List.mem_singleton, ← @chained_zero _ body]
      constructor <;> exact Chained.mono (by omega)
  | succ extra hypothesis =>
      rw [upTo, List.mem_append, List.mem_singleton,
        chained_succ fun _ _ => hypothesis, ← @chained_zero _ body,
        ← chained_or]
      constructor
      · apply Chained.mono
        rintro number (⟨fewer, rfl, within⟩ | rfl) <;> omega
      · apply Chained.mono
        rintro (_ | fewer) within
        · exact Or.inr rfl
        · exact Or.inl ⟨fewer, rfl, by omega⟩

/-- The matches of a repetition are the chains of matches of its body. -/
theorem mem_repeated {least extra : Nat} :
    found ∈ repeated body extra least text ↔
      Chained body
        (fun number => least ≤ number ∧ number ≤ least + extra) text found := by
  induction least generalizing text found with
  | zero =>
      rw [repeated, mem_upTo]
      constructor <;> exact Chained.mono (by omega)
  | succ least hypothesis =>
      rw [repeated, chained_succ fun _ _ => hypothesis]
      constructor
      · apply Chained.mono
        rintro number ⟨fewer, rfl, within⟩
        omega
      · apply Chained.mono
        rintro (_ | fewer) within
        · omega
        · exact ⟨fewer, rfl, by omega⟩

end Repetition

namespace Pattern

variable {found : Match α} {text : List α}

/-- A match takes the start of the text. -/
theorem consumed_append_rest
    {pattern : Pattern α}
    (member : found ∈ pattern.run text) :
    found.consumed ++ found.rest = text := by
  induction pattern generalizing text found with
  | empty =>
      obtain rfl := mem_run_empty.mp member
      rfl
  | one accepts =>
      obtain ⟨symbol, rest, rfl, -, rfl⟩ := mem_run_one.mp member
      rfl
  | atEnd ends =>
      obtain ⟨-, rfl⟩ := mem_run_atEnd.mp member
      rfl
  | append first second first_takes second_takes =>
      obtain ⟨one, one_member, two, two_member, rfl⟩ :=
        mem_run_append.mp member
      rw [Match.append, List.append_assoc, second_takes two_member,
        first_takes one_member]
  | either first second first_takes second_takes =>
      rcases mem_run_either.mp member with member | member
      · exact first_takes member
      · exact second_takes member
  | many least most body body_takes =>
      obtain ⟨chain, follows, -, -, consumed⟩ := mem_repeated.mp member
      rw [consumed]
      clear consumed member
      induction chain generalizing text with
      | nil => exact follows
      | cons first more hypothesis =>
          rw [List.map_cons, List.flatten_cons, List.append_assoc,
            hypothesis follows.2, body_takes follows.1]
  | group body body_takes =>
      obtain ⟨inner, inner_member, rfl⟩ := mem_run_group.mp member
      have taken := body_takes inner_member
      exact taken

theorem Follow.length_le
    {body : Pattern α}
    (consumes : ∀ text, ∀ found ∈ body.run text, found.consumed ≠ [])
    {chain : List (Match α)}
    {rest : List α}
    (follows : Follow body.run text chain rest) :
    chain.length ≤ text.length := by
  induction chain generalizing text with
  | nil => exact Nat.zero_le _
  | cons first more hypothesis =>
      have shorter := hypothesis follows.2
      have takes := congrArg List.length (consumed_append_rest follows.1)
      have some_taken :=
        List.length_pos_iff_ne_nil.mpr (consumes _ _ follows.1)
      rw [List.length_append] at takes
      rw [List.length_cons]
      omega

/-- A repetition without a bound, of a body that always takes something. -/
theorem mem_run_many_none
    {least : Nat}
    {body : Pattern α}
    (consumes : ∀ text, ∀ found ∈ body.run text, found.consumed ≠ []) :
    found ∈ (many least none body).run text ↔
      Chained body.run (fun number => least ≤ number) text found := by
  rw [run, mem_repeated]
  constructor
  · exact Chained.mono fun _ within => within.1
  · rintro ⟨chain, follows, within, taken⟩
    have bounded := Follow.length_le consumes follows
    refine ⟨chain, follows, ⟨within, ?_⟩, taken⟩
    rw [Option.getD_none]
    omega

theorem mem_run_many_some
    {least most : Nat}
    (some_number : least ≤ most)
    {body : Pattern α} :
    found ∈ (many least (some most) body).run text ↔
      Chained body.run (fun number => least ≤ number ∧ number ≤ most)
        text found := by
  rw [run, mem_repeated, Option.getD_some, Nat.add_sub_cancel' some_number]

/-! ## Languages -/

/-- The matches of a pattern have no groups and take the words of a
language. -/
def Takes (pattern : Pattern α) (language : List α → Prop) : Prop :=
  ∀ text found, found ∈ pattern.run text ↔
    ∃ word rest, language word ∧ text = word ++ rest ∧
      found = ⟨[], word, rest⟩

theorem Takes.congr
    {pattern : Pattern α}
    {language other : List α → Prop}
    (takes : pattern.Takes language)
    (same : ∀ word, language word ↔ other word) :
    pattern.Takes other := by
  have languages : language = other := funext fun word => propext (same word)
  rwa [← languages]

theorem takes_empty : (empty : Pattern α).Takes (fun word => word = []) := by
  intro text found
  rw [mem_run_empty]
  simp

theorem takes_one (accepts : α → Bool) :
    (one accepts).Takes
      (fun word => ∃ symbol, accepts symbol = true ∧ word = [symbol]) := by
  intro text found
  rw [mem_run_one]
  constructor
  · rintro ⟨symbol, rest, rfl, accepted, rfl⟩
    exact ⟨[symbol], rest, ⟨symbol, accepted, rfl⟩, rfl, rfl⟩
  · rintro ⟨_, rest, ⟨symbol, accepted, rfl⟩, rfl, rfl⟩
    exact ⟨symbol, rest, rfl, accepted, rfl⟩

theorem takes_symbol [DecidableEq α] (symbol : α) :
    (one fun other => other = symbol).Takes (fun word => word = [symbol]) := by
  apply (takes_one _).congr
  intro word
  simp

theorem Takes.append
    {first second : Pattern α}
    {firstWords secondWords : List α → Prop}
    (first_takes : first.Takes firstWords)
    (second_takes : second.Takes secondWords) :
    (Pattern.append first second).Takes (fun word =>
      ∃ start later, firstWords start ∧ secondWords later ∧
        word = start ++ later) := by
  intro text found
  rw [mem_run_append]
  constructor
  · rintro ⟨one, one_member, two, two_member, rfl⟩
    obtain ⟨start, rest, start_word, rfl, rfl⟩ :=
      (first_takes _ _).mp one_member
    obtain ⟨later, rest, later_word, rfl, rfl⟩ :=
      (second_takes _ _).mp two_member
    exact ⟨_, rest, ⟨start, later, start_word, later_word, rfl⟩,
      (List.append_assoc ..).symm, rfl⟩
  · rintro ⟨_, rest, ⟨start, later, start_word, later_word, rfl⟩, rfl, rfl⟩
    refine ⟨⟨[], start, later ++ rest⟩, ?_, ⟨[], later, rest⟩, ?_, rfl⟩
    · exact (first_takes _ _).mpr
        ⟨start, _, start_word, List.append_assoc .., rfl⟩
    · exact (second_takes _ _).mpr ⟨later, rest, later_word, rfl, rfl⟩

/-- A chain of matches takes a word for each of them. -/
theorem Takes.chained
    {body : Pattern α}
    {language : List α → Prop}
    (takes : body.Takes language)
    {allowed : Nat → Prop} :
    Chained body.run allowed text found ↔
      ∃ (words : List (List α)) (rest : List α),
        (∀ word ∈ words, language word) ∧ allowed words.length ∧
        text = words.flatten ++ rest ∧ found = ⟨[], words.flatten, rest⟩ := by
  constructor
  · rintro ⟨chain, follows, within, groups, consumed⟩
    suffices taken : ∃ words : List (List α),
        (∀ word ∈ words, language word) ∧
        words.length = chain.length ∧ text = words.flatten ++ found.rest ∧
        (chain.map Match.groups).flatten = [] ∧
        (chain.map Match.consumed).flatten = words.flatten by
      obtain ⟨words, in_language, length, taken, no_groups, same⟩ := taken
      refine ⟨words, found.rest, in_language, length ▸ within, taken, ?_⟩
      exact Match.ext (groups.trans no_groups) (consumed.trans same) rfl
    clear within groups consumed
    induction chain generalizing text with
    | nil => exact ⟨[], by simp, rfl, follows.symm, rfl, rfl⟩
    | cons first more hypothesis =>
        obtain ⟨member, follows⟩ := follows
        obtain ⟨word, rest, in_language, rfl, rfl⟩ := (takes _ _).mp member
        obtain ⟨words, others, length, taken, groups, same⟩ :=
          hypothesis follows
        refine ⟨word :: words, List.forall_mem_cons.mpr ⟨in_language, others⟩,
          congrArg (· + 1) length, ?_, groups, ?_⟩
        · rw [List.flatten_cons, List.append_assoc, ← taken]
        · rw [List.map_cons, List.flatten_cons, List.flatten_cons, same]
  · rintro ⟨words, rest, in_language, within, rfl, rfl⟩
    suffices chained : ∃ chain,
        Follow body.run (words.flatten ++ rest) chain rest ∧
        chain.length = words.length ∧
        (chain.map Match.groups).flatten = [] ∧
        (chain.map Match.consumed).flatten = words.flatten by
      obtain ⟨chain, follows, length, groups, same⟩ := chained
      exact ⟨chain, follows, length ▸ within, groups.symm, same.symm⟩
    clear within
    induction words with
    | nil => exact ⟨[], rfl, rfl, rfl, rfl⟩
    | cons word words hypothesis =>
        obtain ⟨in_language, others⟩ := List.forall_mem_cons.mp in_language
        obtain ⟨chain, follows, length, groups, same⟩ := hypothesis others
        refine ⟨⟨[], word, words.flatten ++ rest⟩ :: chain,
          ⟨(takes _ _).mpr ⟨word, _, in_language, ?_, rfl⟩, follows⟩,
          congrArg (· + 1) length, groups, ?_⟩
        · rw [List.flatten_cons, List.append_assoc]
        · rw [List.map_cons, List.flatten_cons, List.flatten_cons, same]

/-- A repetition without a bound takes any larger number of words. -/
theorem Takes.many
    {body : Pattern α}
    {language : List α → Prop}
    (takes : body.Takes language)
    (nonempty : ¬language [])
    (least : Nat) :
    (many least none body).Takes (fun text =>
      ∃ words : List (List α), (∀ word ∈ words, language word) ∧
        least ≤ words.length ∧ text = words.flatten) := by
  intro text found
  rw [mem_run_many_none, takes.chained]
  · constructor
    · rintro ⟨words, rest, in_language, within, rfl, rfl⟩
      exact ⟨_, rest, ⟨words, in_language, within, rfl⟩, rfl, rfl⟩
    · rintro ⟨_, rest, ⟨words, in_language, within, rfl⟩, rfl, rfl⟩
      exact ⟨words, rest, in_language, within, rfl, rfl⟩
  · intro text found member
    obtain ⟨word, rest, in_language, -, rfl⟩ := (takes _ _).mp member
    rintro rfl
    exact nonempty in_language

theorem Takes.either
    {first second : Pattern α}
    {firstWords secondWords : List α → Prop}
    (first_takes : first.Takes firstWords)
    (second_takes : second.Takes secondWords) :
    (Pattern.either first second).Takes (fun word =>
      firstWords word ∨ secondWords word) := by
  intro text found
  rw [mem_run_either, first_takes, second_takes, ← exists_or]
  simp only [← exists_or, or_and_right]

/-- A bounded repetition takes as many words. -/
theorem Takes.many_some
    {body : Pattern α}
    {language : List α → Prop}
    (takes : body.Takes language)
    {least most : Nat}
    (some_number : least ≤ most) :
    (Pattern.many least (some most) body).Takes (fun text =>
      ∃ words : List (List α), (∀ word ∈ words, language word) ∧
        (least ≤ words.length ∧ words.length ≤ most) ∧
        text = words.flatten) := by
  intro text found
  rw [mem_run_many_some some_number, takes.chained]
  constructor
  · rintro ⟨words, rest, in_language, within, rfl, rfl⟩
    exact ⟨_, rest, ⟨words, in_language, within, rfl⟩, rfl, rfl⟩
  · rintro ⟨_, rest, ⟨words, in_language, within, rfl⟩, rfl, rfl⟩
    exact ⟨words, rest, in_language, within, rfl, rfl⟩

/-- The pattern matches a text as a whole. -/
def Accepts (pattern : Pattern α) (text : List α) : Prop :=
  ∃ found ∈ pattern.run text, found.rest = []

instance (pattern : Pattern α) (text : List α) :
    Decidable (pattern.Accepts text) :=
  decidable_of_iff
    ((pattern.run text).any (fun found => found.rest.isEmpty) = true) <| by
      simp only [Accepts, List.any_eq_true, List.isEmpty_iff]

/-- The words of its language are what a pattern accepts. -/
theorem Takes.accepts_iff
    {pattern : Pattern α}
    {language : List α → Prop}
    (takes : pattern.Takes language)
    (word : List α) :
    pattern.Accepts word ↔ language word := by
  constructor
  · rintro ⟨found, member, none_left⟩
    obtain ⟨taken, rest, in_language, rfl, rfl⟩ := (takes _ _).mp member
    obtain rfl : rest = [] := none_left
    rwa [List.append_nil]
  · intro in_language
    exact ⟨⟨[], word, []⟩, (takes _ _).mpr
      ⟨word, [], in_language, (List.append_nil word).symm, rfl⟩, rfl⟩

theorem Takes.accepts
    {pattern : Pattern α}
    {language : List α → Prop}
    (takes : pattern.Takes language) :
    pattern.Takes pattern.Accepts :=
  takes.congr fun word => (takes.accepts_iff word).symm

/-- Words of one symbol each are the symbols of a text. -/
theorem forall_singleton_iff
    {accepts : α → Bool}
    {words : List (List α)} :
    (∀ word ∈ words, ∃ symbol, accepts symbol = true ∧ word = [symbol]) ↔
      ∃ symbols : List α, (∀ symbol ∈ symbols, accepts symbol = true) ∧
        words = symbols.map fun symbol => [symbol] := by
  constructor
  · intro singletons
    induction words with
    | nil => exact ⟨[], by simp, rfl⟩
    | cons word words hypothesis =>
        obtain ⟨⟨symbol, accepted, rfl⟩, others⟩ :=
          List.forall_mem_cons.mp singletons
        obtain ⟨symbols, all_accepted, rfl⟩ := hypothesis others
        exact ⟨symbol :: symbols,
          List.forall_mem_cons.mpr ⟨accepted, all_accepted⟩, rfl⟩
  · rintro ⟨symbols, all_accepted, rfl⟩ word member
    obtain ⟨symbol, symbol_member, rfl⟩ := List.mem_map.mp member
    exact ⟨symbol, all_accepted symbol symbol_member, rfl⟩

/-- A repeated class takes the words of symbols of the class. -/
theorem takes_many_one
    (accepts : α → Bool)
    (least : Nat)
    (most : Option Nat)
    (some_number : ∀ bound ∈ most, least ≤ bound) :
    (many least most (one accepts)).Takes (fun word =>
      (∀ symbol ∈ word, accepts symbol = true) ∧ least ≤ word.length ∧
        ∀ bound ∈ most, word.length ≤ bound) := by
  intro text found
  have chained : found ∈ (many least most (one accepts)).run text ↔
      Chained (one accepts).run (fun number =>
        least ≤ number ∧ ∀ bound ∈ most, number ≤ bound) text found := by
    cases most with
    | none =>
        rw [mem_run_many_none]
        · simp
        · intro text found member
          obtain ⟨_, _, -, -, rfl⟩ := mem_run_one.mp member
          simp
    | some bound =>
        rw [mem_run_many_some (some_number bound rfl)]
        simp
  have flatten_map (symbols : List α) :
      (symbols.map fun symbol => [symbol]).flatten = symbols := by
    rw [← List.flatMap_def, List.flatMap_singleton']
  simp only [chained, (takes_one accepts).chained, forall_singleton_iff]
  constructor
  · rintro ⟨_, rest, ⟨symbols, all_accepted, rfl⟩, within, taken⟩
    rw [List.length_map] at within
    rw [flatten_map] at taken
    exact ⟨symbols, rest, ⟨all_accepted, within⟩, taken⟩
  · rintro ⟨symbols, rest, ⟨all_accepted, within⟩, taken⟩
    rw [← flatten_map symbols] at taken
    refine ⟨_, rest, ⟨symbols, all_accepted, rfl⟩, ?_, taken⟩
    rwa [List.length_map]

theorem mem_run_sequence_cons
    {first : Pattern α}
    {patterns : List (Pattern α)} :
    found ∈ (sequence (first :: patterns)).run text ↔
      ∃ one ∈ first.run text, ∃ two ∈ (sequence patterns).run one.rest,
        found = one.append two :=
  mem_run_append

@[simp] theorem mem_run_sequence_nil :
    found ∈ (sequence []).run text ↔ found = ⟨[], [], text⟩ :=
  mem_run_empty

/-- A pattern in front of others takes a word of its language. -/
theorem Takes.mem_run_cons
    {first : Pattern α}
    {language : List α → Prop}
    (takes : first.Takes language)
    {patterns : List (Pattern α)} :
    found ∈ (sequence (first :: patterns)).run text ↔
      ∃ word rest, language word ∧ text = word ++ rest ∧
        ∃ later ∈ (sequence patterns).run rest,
          found = ⟨later.groups, word ++ later.consumed, later.rest⟩ := by
  rw [mem_run_sequence_cons]
  constructor
  · rintro ⟨one, one_member, later, later_member, rfl⟩
    obtain ⟨word, rest, in_language, rfl, rfl⟩ := (takes _ _).mp one_member
    exact ⟨word, rest, in_language, rfl, later, later_member, rfl⟩
  · rintro ⟨word, rest, in_language, rfl, later, later_member, rfl⟩
    exact ⟨_, (takes _ _).mpr ⟨word, rest, in_language, rfl, rfl⟩, later,
      later_member, rfl⟩

theorem takes_literal
    [DecidableEq α]
    (word : List α) :
    (literal word).Takes (fun taken => taken = word) := by
  induction word with
  | nil =>
      intro text found
      rw [literal, List.map_nil, mem_run_sequence_nil]
      simp
  | cons symbol word hypothesis =>
      intro text found
      rw [literal, List.map_cons, (takes_one _).mem_run_cons]
      constructor
      · rintro ⟨_, rest, ⟨_, same, rfl⟩, rfl, later, later_member, rfl⟩
        obtain ⟨_, rest, rfl, rfl, rfl⟩ := (hypothesis _ _).mp later_member
        obtain rfl := of_decide_eq_true same
        exact ⟨_, rest, rfl, rfl, rfl⟩
      · rintro ⟨_, rest, rfl, rfl, rfl⟩
        exact ⟨[symbol], word ++ rest, ⟨symbol, decide_eq_true rfl, rfl⟩, rfl,
          _, (hypothesis _ _).mpr ⟨word, rest, rfl, rfl, rfl⟩, rfl⟩

/-! ## Groups -/

/-- Some match at the start of the text has the groups. -/
def Reads
    (pattern : Pattern α)
    (text : List α)
    (groups : List (List α)) : Prop :=
  ∃ found ∈ pattern.run text, found.groups = groups

variable {patterns : List (Pattern α)} {groups : List (List α)}

theorem reads_nil : (sequence []).Reads text groups ↔ groups = [] := by
  simp [Reads, eq_comm]

/-- A pattern in front of others takes a word of its language. -/
theorem Takes.reads_cons
    {first : Pattern α}
    {language : List α → Prop}
    (takes : first.Takes language) :
    (sequence (first :: patterns)).Reads text groups ↔
      ∃ word rest, language word ∧ text = word ++ rest ∧
        (sequence patterns).Reads rest groups := by
  simp only [Reads, takes.mem_run_cons]
  constructor
  · rintro ⟨_, ⟨word, rest, in_language, rfl, later, later_member, rfl⟩, rfl⟩
    exact ⟨word, rest, in_language, rfl, later, later_member, rfl⟩
  · rintro ⟨word, rest, in_language, rfl, later, later_member, rfl⟩
    exact ⟨_, ⟨word, rest, in_language, rfl, later, later_member, rfl⟩, rfl⟩

/-- A group in front of others is a word of the language of its pattern. -/
theorem Takes.reads_group_cons
    {body : Pattern α}
    {language : List α → Prop}
    (takes : body.Takes language) :
    (sequence (group body :: patterns)).Reads text groups ↔
      ∃ word rest more, language word ∧ text = word ++ rest ∧
        groups = word :: more ∧ (sequence patterns).Reads rest more := by
  simp only [Reads, mem_run_sequence_cons]
  constructor
  · rintro ⟨_, ⟨one, one_member, later, later_member, rfl⟩, rfl⟩
    obtain ⟨inner, inner_member, rfl⟩ := mem_run_group.mp one_member
    obtain ⟨word, rest, in_language, rfl, rfl⟩ := (takes _ _).mp inner_member
    exact ⟨word, rest, later.groups, in_language, rfl, rfl, later,
      later_member, rfl⟩
  · rintro ⟨word, rest, _, in_language, rfl, rfl, later, later_member, rfl⟩
    exact ⟨_, ⟨_, mem_run_group.mpr ⟨_, (takes _ _).mpr
      ⟨word, rest, in_language, rfl, rfl⟩, rfl⟩, later, later_member, rfl⟩,
      rfl⟩

theorem reads_atEnd_cons
    {ends : List α → Bool} :
    (sequence (atEnd ends :: patterns)).Reads text groups ↔
      ends text = true ∧ (sequence patterns).Reads text groups := by
  simp only [Reads, mem_run_sequence_cons, mem_run_atEnd]
  constructor
  · rintro ⟨_, ⟨_, ⟨ended, rfl⟩, later, later_member, rfl⟩, rfl⟩
    exact ⟨ended, later, later_member, rfl⟩
  · rintro ⟨ended, later, later_member, rfl⟩
    exact ⟨_, ⟨_, ⟨ended, rfl⟩, later, later_member, rfl⟩, rfl⟩

/-- Groups, each with a symbol in front of it. -/
def fields [DecidableEq α] (parts : List (α × Pattern α)) :
    List (Pattern α) :=
  parts.flatMap fun part =>
    [one fun other => other = part.1, group part.2]

/-- Words, each with a symbol in front of it. -/
def fieldsText (parts : List (α × Pattern α)) (words : List (List α)) :
    List α :=
  (List.zipWith (fun part word => part.1 :: word) parts words).flatten

/-- Groups with symbols in front of them are words their patterns accept. -/
theorem reads_fields_append
    [DecidableEq α]
    {parts : List (α × Pattern α)}
    (takes : ∀ part ∈ parts, part.2.Takes part.2.Accepts) :
    (sequence (fields parts ++ patterns)).Reads text groups ↔
      ∃ words rest more,
        List.Forall₂ (fun part word => part.2.Accepts word) parts words ∧
        text = fieldsText parts words ++ rest ∧ groups = words ++ more ∧
        (sequence patterns).Reads rest more := by
  induction parts generalizing text groups with
  | nil =>
      simp only [fields, fieldsText, List.flatMap_nil, List.nil_append,
        List.forall₂_nil_left_iff]
      constructor
      · intro reads
        exact ⟨[], text, groups, rfl, rfl, rfl, reads⟩
      · rintro ⟨_, _, _, rfl, rfl, rfl, reads⟩
        exact reads
  | cons part parts hypothesis =>
      obtain ⟨part_takes, takes⟩ := List.forall_mem_cons.mp takes
      have later := fun text groups =>
        @hypothesis text groups takes
      simp only [fields] at later
      simp only [fields, List.flatMap_cons, List.cons_append, List.nil_append,
        (takes_symbol part.1).reads_cons, part_takes.reads_group_cons, later,
        List.forall₂_cons_left_iff]
      constructor
      · rintro ⟨_, _, rfl, rfl, word, _, _, accepted, rfl, rfl, words, rest,
          more, others, rfl, rfl, reads⟩
        exact ⟨word :: words, rest, more, ⟨word, words, accepted, others, rfl⟩,
          by simp [fieldsText], rfl, reads⟩
      · rintro ⟨_, rest, more, ⟨word, words, accepted, others, rfl⟩, rfl, rfl,
          reads⟩
        exact ⟨_, _, rfl, by simp [fieldsText], word, _, _, accepted, rfl, rfl,
          words, rest, more, others, rfl, rfl, reads⟩

/-! ## Searches -/

/-- What a search finds is a match at some place. -/
theorem exists_of_search_eq_some
    {pattern : Pattern α}
    (searched : pattern.search text = some found) :
    ∃ here, here <:+ text ∧ found ∈ pattern.run here := by
  induction text with
  | nil => exact ⟨[], List.suffix_rfl, List.mem_of_head? searched⟩
  | cons symbol text hypothesis =>
      rw [search] at searched
      cases first : (pattern.run (symbol :: text)).head? with
      | some match_here =>
          rw [first, Option.some_or] at searched
          obtain rfl := Option.some.inj searched
          exact ⟨_, List.suffix_rfl, List.mem_of_head? first⟩
      | none =>
          rw [first, Option.none_or] at searched
          obtain ⟨here, later, member⟩ := hypothesis searched
          exact ⟨here, later.trans (List.suffix_cons symbol text), member⟩

/-- A search finds something when there is a match at some place. -/
theorem exists_search_eq_some
    {pattern : Pattern α}
    {here : List α}
    (place : here <:+ text)
    (member : found ∈ pattern.run here) :
    ∃ searched, pattern.search text = some searched := by
  have found_here {text : List α} (start : here = text) :
      ∃ first, (pattern.run text).head? = some first := by
    subst start
    exact Option.isSome_iff_exists.mp
      (List.isSome_head?.mpr (List.ne_nil_of_mem member))
  induction text with
  | nil =>
      obtain ⟨first, first_eq⟩ := found_here (List.suffix_nil.mp place)
      exact ⟨first, first_eq⟩
  | cons symbol text hypothesis =>
      rw [search]
      cases first : (pattern.run (symbol :: text)).head? with
      | some match_here => exact ⟨match_here, rfl⟩
      | none =>
          rcases List.suffix_cons_iff.mp place with start | later
          · obtain ⟨found_first, first_eq⟩ := found_here start
            rw [first] at first_eq
            cases first_eq
          · exact hypothesis later

/-- A search reads the groups that every match at any place has. -/
theorem search_groups_eq
    {pattern : Pattern α}
    {here : List α}
    (place : here <:+ text)
    (reads : pattern.Reads here groups)
    (unique : ∀ there others, there <:+ text → pattern.Reads there others →
      others = groups) :
    (pattern.search text).map Match.groups = some groups := by
  obtain ⟨found, member, -⟩ := reads
  obtain ⟨searched, searched_eq⟩ := exists_search_eq_some place member
  obtain ⟨there, there_place, there_member⟩ :=
    exists_of_search_eq_some searched_eq
  rw [searched_eq, Option.map_some,
    unique there _ there_place ⟨searched, there_member, rfl⟩]

/-- A search finds nothing where there is no match at any place. -/
theorem search_eq_none
    {pattern : Pattern α}
    (nowhere : ∀ here groups, here <:+ text → ¬pattern.Reads here groups) :
    pattern.search text = none := by
  cases searched : pattern.search text with
  | none => rfl
  | some found =>
      obtain ⟨here, place, member⟩ := exists_of_search_eq_some searched
      exact absurd ⟨found, member, rfl⟩ (nowhere here found.groups place)

/-! ## The first match -/

/-- A greedy repetition of accepted symbols comes first to all of them. -/
theorem head?_upTo_one
    {accepts : α → Bool}
    {text : List α}
    (accepted : ∀ symbol ∈ text, accepts symbol = true)
    {extra : Nat}
    (enough : text.length ≤ extra) :
    (upTo (run (one accepts)) extra text).head? = some ⟨[], text, []⟩ := by
  induction text generalizing extra with
  | nil =>
      cases extra with
      | zero => rfl
      | succ extra => rfl
  | cons symbol text inductionHypothesis =>
      obtain ⟨first, accepted⟩ := List.forall_mem_cons.mp accepted
      cases extra with
      | zero => cases enough
      | succ extra =>
          have later := inductionHypothesis accepted
            (Nat.le_of_succ_le_succ enough)
          rw [upTo, run, if_pos first, List.flatMap_cons, List.flatMap_nil,
            List.append_nil, List.head?_append, List.head?_map, later]
          rfl

theorem head?_run_many_one
    {accepts : α → Bool}
    {text : List α}
    (nonempty : text ≠ [])
    (accepted : ∀ symbol ∈ text, accepts symbol = true) :
    ((many 1 none (one accepts)).run text).head? = some ⟨[], text, []⟩ := by
  cases text with
  | nil => exact absurd rfl nonempty
  | cons symbol text =>
      obtain ⟨first, accepted⟩ := List.forall_mem_cons.mp accepted
      rw [run, repeated, run, if_pos first, List.flatMap_cons,
        List.flatMap_nil, List.append_nil, List.head?_map]
      change ((upTo (run (one accepts)) text.length text).head?).map _ = _
      rw [head?_upTo_one accepted (Nat.le_refl _)]
      rfl

/-- A part with a single match is followed by the rest of the sequence. -/
theorem run_sequence_cons_of_single
    {first : Pattern α}
    {later : List (Pattern α)}
    {text : List α}
    {found : Match α}
    (single : first.run text = [found]) :
    (sequence (first :: later)).run text =
      ((sequence later).run found.rest).map found.append := by
  change (append first (sequence later)).run text = _
  rw [run, single, List.flatMap_singleton]

/-- A sequence of one part is this part. -/
theorem run_sequence_singleton (pattern : Pattern α) (text : List α) :
    (sequence [pattern]).run text = pattern.run text := by
  have alone (found : Match α) :
      ((empty : Pattern α).run found.rest).map found.append = [found] := by
    rw [run, List.map_singleton, Match.append, List.append_nil,
      List.append_nil]
  change (append pattern empty).run text = _
  rw [run]
  simp only [alone, List.flatMap_singleton']

theorem run_literal_append [DecidableEq α] (text rest : List α) :
    (literal text).run (text ++ rest) = [⟨[], text, rest⟩] := by
  induction text with
  | nil => rfl
  | cons symbol text inductionHypothesis =>
      have single : (one fun other => other = symbol).run
          (symbol :: (text ++ rest)) = [⟨[], [symbol], text ++ rest⟩] := by
        simp [run]
      rw [literal, List.map_cons, List.cons_append,
        run_sequence_cons_of_single single, ← literal, inductionHypothesis]
      rfl

end Pattern

end Regex
