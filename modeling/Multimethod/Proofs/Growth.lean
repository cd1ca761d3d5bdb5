import Multimethod.Proofs.Registration
import Multimethod.Proofs.Selection

/-!
Tables that grow. Registration puts bindings behind those that are there and never touches those, so
searching a table that has grown is searching the old one, and going on behind it only where nothing
was found: `search_grown`. A call that was matched is matched alike ever after, and a new binding
takes only calls that no binding took before: `growth_keeps_matches`.
-/
namespace Multimethod

variable {P H σ : Type}

namespace Table

/-- One table has grown out of another: it is configured alike, and its bindings begin with those of
the other. -/
structure Extends (grown table : Table P H) : Prop where
  config : grown.config = table.config
  bindings : table.bindings <+: grown.bindings

/-- Whatever steps are taken, refused or not, a table only grows. -/
theorem attempts_extend (table : Table P H) (steps : List (Registration P H)) :
    (table.attemptAll steps).table.Extends table := by
  rw [attemptAll_leaves]
  exact ⟨rfl, List.prefix_append _ _⟩

/-- The bindings that a chain of steps adds: those of its steps before the first that is refused. -/
def chainBindings (steps : List (Registration P H)) : List (Binding P H) :=
  (steps.takeWhile fun step => step.refusal?.isNone).filterMap Registration.binding?

private theorem registerAll_bindings (table : Table P H) (steps : List (Registration P H)) :
    (table.registerAll steps).table.bindings = table.bindings ++ chainBindings steps := by
  rw [registerAll_eq_attempts, attemptAll_leaves]
  rfl

/-- A chain of steps as a change of a table, with what it reports and why it ended early, if it did. -/
def registering (steps : List (Registration P H)) (table : Table P H) :
    Table P H × List Event × Option Error :=
  let after := table.registerAll steps
  (after.table, after.events, after.error)

/-- The table after several updates, each of which is a chain of steps. -/
def updated (table : Table P H) (updates : List (List (Registration P H))) : Table P H :=
  updates.foldl (fun table steps => (table.registerAll steps).table) table

theorem updated_append (table : Table P H) (before after : List (List (Registration P H))) :
    table.updated (before ++ after) = (table.updated before).updated after :=
  List.foldl_append

/-- Updates one after another add the bindings of each, in the order of the updates. -/
theorem updated_bindings (table : Table P H) (updates : List (List (Registration P H))) :
    (table.updated updates).bindings = table.bindings ++ updates.flatMap chainBindings := by
  induction updates generalizing table with
  | nil => simp [updated]
  | cons steps rest ih =>
    have first : table.updated (steps :: rest) = (table.registerAll steps).table.updated rest := rfl
    rw [first, ih, registerAll_bindings, List.flatMap_cons, List.append_assoc]

private theorem updated_config (table : Table P H) (updates : List (List (Registration P H))) :
    (table.updated updates).config = table.config := by
  induction updates generalizing table with
  | nil => rfl
  | cons steps rest ih =>
    have first : table.updated (steps :: rest) = (table.registerAll steps).table.updated rest := rfl
    rw [first, ih, registerAll_eq_attempts, attemptAll_leaves]

/-- Updates only make a table grow. -/
theorem updated_extends (table : Table P H) (updates : List (List (Registration P H))) :
    (table.updated updates).Extends table := by
  refine ⟨table.updated_config updates, ?_⟩
  rw [updated_bindings]
  exact List.prefix_append _ _

/-! ### Searching what has grown -/

section

variable {m : Type → Type} [Monad m] [LawfulMonad m]

/-- A search goes on in a second row of bindings only where it finds nothing in the first. -/
theorem firstFrom_append (host : Host P H m) (config : Config) (args : List Value) (index : Nat)
    (first second : List (Binding P H)) :
    firstFrom host config args index (first ++ second) = (do
      match ← firstFrom host config args index first with
      | some found => return some found
      | none => firstFrom host config args (index + first.length) second) := by
  induction first generalizing index with
  | nil => simp [firstFrom]
  | cons binding rest ih =>
    have shifted : index + (binding :: rest).length = index + 1 + rest.length := by
      simp only [List.length_cons]
      omega
    simp only [List.cons_append, firstFrom, bind_assoc, shifted, ih]
    congr 1
    funext accepted
    cases accepted with
    | true => simp
    | false => cases config.traceRejections <;> simp

/-- Searching a table that has grown is searching the old one first. -/
theorem search_grown {grown table : Table P H} (grew : grown.Extends table) (host : Host P H m)
    (args : List Value) :
    grown.firstAccepting host args = (do
      match ← table.firstAccepting host args with
      | some found => return some found
      | none =>
        firstFrom host table.config args table.length (grown.bindings.drop table.length)) := by
  obtain ⟨more, same⟩ := grew.bindings
  have behind : grown.bindings.drop table.length = more := by
    rw [← same]
    exact List.drop_left
  rw [behind, firstAccepting, grew.config, ← same, firstFrom_append, Nat.zero_add]
  rfl

end

/-- What was found in the old table is found in the grown one, with the same questions and reports
on the way. -/
theorem found_again {grown table : Table P H} (grew : grown.Extends table)
    (host : Host P H (StateM σ)) (args : List Value) {state : σ} {found : Nat × Binding P H}
    (before : ((table.firstAccepting host args).run state).1 = some found) :
    (grown.firstAccepting host args).run state = (table.firstAccepting host args).run state := by
  rw [search_grown grew, run_then]
  generalize (table.firstAccepting host args).run state = search at before ⊢
  obtain ⟨result, after⟩ := search
  cases before
  rfl

/-- A call that the old table matches is resolved in the grown one as it was in the old one, to the
last effect. -/
theorem resolved_again {grown table : Table P H} (grew : grown.Extends table)
    (host : Host P H (StateM σ)) (args : List Value) {state : σ} {found : Nat × Binding P H}
    (before : ((table.firstAccepting host args).run state).1 = some found) :
    (grown.resolve host args).run state = (table.resolve host args).run state := by
  unfold resolve
  rw [run_then, run_then, found_again grew host args before, grew.config]
  generalize (table.firstAccepting host args).run state = search at before ⊢
  obtain ⟨result, after⟩ := search
  cases before
  rfl

/-! ### Without effects -/

/-- Where predicates have no effects, what a search finds depends on nothing but the table and the
call. -/
theorem search_without_effects (host : Host P H (StateM σ)) (answer : P → Value → Bool)
    (table : Table P H) (args : List Value) (state : σ) :
    ((table.firstAccepting (host.withAnswers answer) args).run state).1 =
      (table.firstAccepting (Host.silent answer) args).run := by
  rw [firstAccepting_unwatched (host.withAnswers answer) table args ⟨state, []⟩]
  exact (firstAccepting_quiet host answer table args ⟨state, []⟩).1

private theorem watched_search_without_effects (host : Host P H (StateM σ)) (answer : P → Value → Bool)
    (table : Table P H) (args : List Value) (watched : Watched P H σ) :
    ((table.firstAccepting (host.withAnswers answer).watched args).run watched).1 =
      (table.firstAccepting (Host.silent answer) args).run :=
  (firstAccepting_quiet host answer table args watched).1

/-- What a table finds without effects stands at its index. -/
theorem standing_of_found {answer : P → Value → Bool} {table : Table P H} {args : List Value}
    {index : Nat} {binding : Binding P H}
    (found : (table.firstAccepting (Host.silent answer) args).run = some (index, binding)) :
    table.bindings[index]? = some binding := by
  have finds := firstAccepting_finds answer table args
  rw [found] at finds
  exact finds.1

/-- A binding that a grown table finds where the old one finds nothing is a new one. -/
theorem found_behind {grown table : Table P H} (grew : grown.Extends table)
    {answer : P → Value → Bool} {args : List Value} {index : Nat} {binding : Binding P H}
    (before : (table.firstAccepting (Host.silent answer) args).run = none)
    (after : (grown.firstAccepting (Host.silent answer) args).run = some (index, binding)) :
    table.length ≤ index := by
  by_contra within
  have rejected := firstAccepting_finds answer table args
  have selected := firstAccepting_finds answer grown args
  rw [before] at rejected
  rw [after] at selected
  obtain ⟨more, same⟩ := grew.bindings
  have standing := selected.1
  rw [← same, List.getElem?_append_left (Nat.lt_of_not_le within)] at standing
  exact rejected binding (List.mem_of_getElem? standing) selected.2.1

end Table

/-- A call that a table matched is matched by the same binding however the table has grown, with all
that is asked, run and reported. If nothing matched a call, only a new binding can match it later. -/
theorem growth_keeps_matches (table : Table P H) (steps : List (Registration P H))
    (host : Host P H (StateM σ)) (answer : P → Value → Bool) (args : List Value)
    (state later : σ) :
    let pureHost := host.withAnswers answer
    let grown := (table.attemptAll steps).table
    let before := ((table.firstAccepting pureHost args).run state).1
    let after := ((grown.firstAccepting pureHost args).run later).1
    (∀ index binding, before = some (index, binding) → after = some (index, binding)) ∧
    (before = none → ∀ index binding, after = some (index, binding) → table.length ≤ index) ∧
    (before ≠ none → ∀ watched,
      (grown.resolve pureHost.watched args).run watched =
        (table.resolve pureHost.watched args).run watched) ∧
    (∀ index value, ((grown.resolve pureHost args).run later).1 = .matched index value →
      table.length ≤ index → ((table.resolve pureHost args).run state).1.isMatch = false) := by
  intro pureHost grown before after
  have grew : grown.Extends table := table.attempts_extend steps
  have found : before = (table.firstAccepting (Host.silent answer) args).run :=
    Table.search_without_effects host answer table args state
  have foundLater : after = (grown.firstAccepting (Host.silent answer) args).run :=
    Table.search_without_effects host answer grown args later
  have kept : ∀ index binding, before = some (index, binding) → after = some (index, binding) := by
    intro index binding same
    have sameLater : ((table.firstAccepting pureHost args).run later).1 = some (index, binding) :=
      (Table.search_without_effects host answer table args later).trans (found.symm.trans same)
    exact (congrArg Prod.fst (Table.found_again grew pureHost args sameLater)).trans sameLater
  refine ⟨kept, fun nothing index binding new => ?_, fun matched watched => ?_,
    fun index value taken new => ?_⟩
  · exact Table.found_behind grew (found.symm.trans nothing) (foundLater.symm.trans new)
  · obtain ⟨pair, same⟩ := Option.ne_none_iff_exists'.mp matched
    refine Table.resolved_again grew pureHost.watched args (?_ : _ = some pair)
    rw [Table.watched_search_without_effects host answer, ← found, same]
  · have ended := resolve_index pureHost grown args later
    have endedBefore := resolve_index pureHost table args state
    change _ = after.map Prod.fst at ended
    change _ = before.map Prod.fst at endedBefore
    cases same : before with
    | none =>
      rw [same] at endedBefore
      cases outcome : ((table.resolve pureHost args).run state).1 with
      | matched other result => rw [outcome] at endedBefore; cases endedBefore
      | _ => rfl
    | some pair =>
      -- The old binding would still take the call, and its index is below the new ones.
      have standing := Table.standing_of_found (found.symm.trans same)
      rw [taken, kept _ _ same] at ended
      cases ended
      exact absurd (List.getElem?_eq_some_iff.mp standing).1 (Nat.not_lt_of_le new)

end Multimethod
