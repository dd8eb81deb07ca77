import Dataflow.Registry
import Mathlib.Data.List.Nodup

/-!
# Registries

A registry finds only operators that have been registered in it, and finds every one of them under
its symbol and under its unique name.
-/

namespace Dataflow.Registry

/-! ## What registries find -/

section

variable {registry larger : Registry} {operator found : Operator} {operators : List Operator}
  {key : String}

theorem findSymbol?_mem (hit : registry.findSymbol? key = some found) :
    found ∈ registry.operators := by
  simp only [findSymbol?] at hit
  split at hit
  · exact Array.mem_of_getElem? hit
  · cases hit

theorem findName?_mem (hit : registry.findName? key = some found) :
    found ∈ registry.operators := by
  simp only [findName?] at hit
  split at hit
  · exact Array.mem_of_getElem? hit
  · cases hit

theorem find?_mem (hit : registry.find? key = some found) : found ∈ registry.operators := by
  simp only [find?] at hit
  cases symbol : registry.findSymbol? key with
  | some operator =>
      rw [symbol] at hit
      exact findSymbol?_mem (symbol.trans hit)
  | none =>
      rw [symbol] at hit
      exact findName?_mem hit

theorem register_operators (added : registry.register operator = .ok larger) :
    larger.operators = registry.operators.push operator := by
  simp only [register] at added
  split at added
  · cases added
  split at added
  · cases added
  · cases added
    rfl

theorem registerAll_mem (member : found ∈ (registry.registerAll operators).1.operators) :
    found ∈ registry.operators ∨ found ∈ operators := by
  induction operators generalizing registry with
  | nil => exact .inl member
  | cons operator operators induction =>
      simp only [registerAll] at member
      cases added : registry.register operator with
      | error cause =>
          rw [added] at member
          exact .inl member
      | ok larger =>
          rw [added] at member
          rcases induction member with earlier | later
          · rw [register_operators added, Array.mem_push] at earlier
            rcases earlier with earlier | rfl
            · exact .inl earlier
            · exact .inr List.mem_cons_self
          · exact .inr (List.mem_cons_of_mem _ later)

/-- The registry of built-in operators finds built-in operators only. -/
theorem builtins_find?_mem [HostArithmetic] (hit : builtins.find? key = some found) :
    found ∈ Catalogue.builtins := by
  rcases registerAll_mem (find?_mem hit) with earlier | member
  · cases Array.not_mem_empty _ earlier
  · exact member

end

/-!
## Registries stay consistent

A registry keeps its operators in an array and their positions in two maps, one by symbol and one by
unique name. Whatever is registered and whatever is rejected, each map has the position of every
operator under its key, and nothing else.
-/

/-- Every operator is indexed under its key, by its position, and nothing else is indexed. -/
def Indexes (key : Operator → String) (operators : Array Operator)
    (index : Std.HashMap String Nat) : Prop :=
  ∀ text position, index[text]? = some position ↔
    ∃ operator, operators[position]? = some operator ∧ key operator = text

/-- A search that yields the operator with a key, for any key. -/
def Retrieves (key : Operator → String) (operators : Array Operator)
    (find? : String → Option Operator) : Prop :=
  ∀ text operator, find? text = some operator ↔ operator ∈ operators ∧ key operator = text

/-- Operators have different keys and are found by these. Nothing else is found, and no position
that is indexed is out of range. -/
structure Finds (key : Operator → String) (operators : Array Operator)
    (index : Std.HashMap String Nat) (find? : String → Option Operator) : Prop where
  nodup : (operators.toList.map key).Nodup
  own : ∀ position (inside : position < operators.size),
    find? (key operators[position]) = some operators[position]
  other : ∀ text, (∀ operator ∈ operators, key operator ≠ text) → find? text = none
  inside : ∀ (text : String) (position : Nat), index[text]? = some position →
    position < operators.size

section

variable {key : Operator → String} {operators : Array Operator} {index : Std.HashMap String Nat}
  {operator : Operator} {text : String} {find? larger? : String → Option Operator}

namespace Retrieves

theorem own (retrieves : Retrieves key operators find?) {position : Nat}
    (inside : position < operators.size) :
    find? (key operators[position]) = some operators[position] :=
  (retrieves _ _).mpr ⟨Array.getElem_mem inside, rfl⟩

theorem eq_none (retrieves : Retrieves key operators find?)
    (free : ∀ operator ∈ operators, key operator ≠ text) : find? text = none := by
  refine Option.eq_none_iff_forall_ne_some.mpr fun operator hit => ?_
  obtain ⟨member, same⟩ := (retrieves text operator).mp hit
  exact free operator member same

/-- One more operator is found under its own key only. -/
theorem eq_of_push (retrieves : Retrieves key operators find?)
    (pushed : Retrieves key (operators.push operator) larger?) (different : text ≠ key operator) :
    larger? text = find? text := by
  refine Option.ext fun found => ?_
  rw [pushed, retrieves, Array.mem_push]
  constructor
  · rintro ⟨member | rfl, same⟩
    · exact ⟨member, same⟩
    · exact absurd same.symm different
  · rintro ⟨member, same⟩
    exact ⟨.inl member, same⟩

end Retrieves

namespace Indexes

theorem empty : Indexes key #[] ∅ := by
  intro text position
  simp

theorem contains_iff (indexes : Indexes key operators index) :
    index.contains text = true ↔ ∃ operator ∈ operators, key operator = text := by
  rw [Std.HashMap.contains_eq_isSome_getElem?, Option.isSome_iff_exists]
  constructor
  · rintro ⟨position, found⟩
    obtain ⟨operator, stored, same⟩ := (indexes text position).mp found
    exact ⟨operator, Array.mem_of_getElem? stored, same⟩
  · rintro ⟨operator, member, same⟩
    obtain ⟨position, stored⟩ := Array.getElem?_of_mem member
    exact ⟨position, (indexes text position).mpr ⟨operator, stored, same⟩⟩

theorem not_contains (indexes : Indexes key operators index)
    (free : ∀ operator ∈ operators, key operator ≠ text) : ¬ index.contains text = true := by
  rw [indexes.contains_iff]
  rintro ⟨operator, member, same⟩
  exact free operator member same

/-- A new operator comes last. -/
theorem push (indexes : Indexes key operators index)
    (fresh : ∀ other ∈ operators, key other ≠ key operator) :
    Indexes key (operators.push operator) (index.insert (key operator) operators.size) := by
  intro text position
  rw [Std.HashMap.getElem?_insert, Array.getElem?_push]
  by_cases own : key operator = text
  -- under its own key there was nothing yet
  · subst own
    simp only [beq_self_eq_true, if_true, Option.some.injEq]
    constructor
    · rintro rfl
      exact ⟨operator, if_pos rfl, rfl⟩
    · rintro ⟨other, stored, same⟩
      split at stored
      · exact Eq.symm ‹_›
      · exact absurd same (fresh other (Array.mem_of_getElem? stored))
  -- under another key, the new position is not meant
  · rw [if_neg (by simpa using own), indexes]
    split
    · rename_i last
      subst last
      simp [own]
    · rfl

theorem inside (indexes : Indexes key operators index) {position : Nat}
    (found : index[text]? = some position) : position < operators.size := by
  obtain ⟨operator, stored, -⟩ := (indexes text position).mp found
  exact (Array.getElem?_eq_some_iff.mp stored).1

/-- Different operators have different keys. -/
theorem nodup (indexes : Indexes key operators index) : (operators.toList.map key).Nodup := by
  rw [List.nodup_iff_injective_getElem]
  intro first second same
  have found : ∀ position : Fin (operators.toList.map key).length,
      index[(operators.toList.map key)[position]]? = some position.val := by
    intro position
    have inside : position.val < operators.size := by simpa using position.isLt
    exact (indexes _ _).mpr ⟨operators[position.val], Array.getElem?_eq_getElem inside, by simp⟩
  have positions : some first.val = some second.val :=
    (found first).symm.trans ((congrArg (index[·]?) same).trans (found second))
  exact Fin.ext (Option.some.inj positions)

/-- Looking up a position first retrieves operators by their keys. -/
theorem retrieves (indexes : Indexes key operators index) :
    Retrieves key operators fun text =>
      match index[text]? with
      | some position => operators[position]?
      | none => none := by
  intro text found
  beta_reduce
  constructor
  · intro hit
    split at hit
    · rename_i position indexed
      obtain ⟨other, stored, same⟩ := (indexes text position).mp indexed
      obtain rfl := Option.some.inj (stored.symm.trans hit)
      exact ⟨Array.mem_of_getElem? stored, same⟩
    · cases hit
  · rintro ⟨member, same⟩
    obtain ⟨position, stored⟩ := Array.getElem?_of_mem member
    rw [(indexes text position).mpr ⟨found, stored, same⟩]
    exact stored

theorem finds (indexes : Indexes key operators index) (retrieves : Retrieves key operators find?) :
    Finds key operators index find? where
  nodup := indexes.nodup
  own _ := retrieves.own
  other _ := retrieves.eq_none
  inside _ _ := indexes.inside

end Indexes

end

/-- A registry whose maps index its operators. -/
structure Consistent (registry : Registry) : Prop where
  symbols : Indexes (·.header.symbol) registry.operators registry.bySymbol
  names : Indexes Operator.uniqueName registry.operators registry.byName

namespace Consistent

variable {registry : Registry} {operator : Operator}

theorem empty : Consistent empty := ⟨.empty, .empty⟩

theorem findSymbol?_retrieves (consistent : registry.Consistent) :
    Retrieves (·.header.symbol) registry.operators registry.findSymbol? :=
  consistent.symbols.retrieves

theorem findName?_retrieves (consistent : registry.Consistent) :
    Retrieves Operator.uniqueName registry.operators registry.findName? :=
  consistent.names.retrieves

/-- The symbol is asked for first. -/
theorem register_of_symbol (consistent : registry.Consistent)
    (taken : ∃ other ∈ registry.operators, other.header.symbol = operator.header.symbol) :
    registry.register operator = .error (.duplicateSymbol operator.header.symbol) := by
  rw [register, if_pos (consistent.symbols.contains_iff.mpr taken)]

theorem register_of_name (consistent : registry.Consistent)
    (free : ∀ other ∈ registry.operators, other.header.symbol ≠ operator.header.symbol)
    (taken : ∃ other ∈ registry.operators, other.uniqueName = operator.uniqueName) :
    registry.register operator = .error (.duplicateName operator.uniqueName) := by
  rw [register, if_neg (consistent.symbols.not_contains free),
    if_pos (consistent.names.contains_iff.mpr taken)]

theorem register_of_free (consistent : registry.Consistent)
    (freeSymbol : ∀ other ∈ registry.operators, other.header.symbol ≠ operator.header.symbol)
    (freeName : ∀ other ∈ registry.operators, other.uniqueName ≠ operator.uniqueName) :
    ∃ larger, registry.register operator = .ok larger ∧ larger.Consistent ∧
      larger.operators = registry.operators.push operator := by
  rw [register, if_neg (consistent.symbols.not_contains freeSymbol),
    if_neg (consistent.names.not_contains freeName)]
  exact ⟨_, rfl, ⟨consistent.symbols.push freeSymbol, consistent.names.push freeName⟩, rfl⟩

end Consistent

/-- Registers an operator in a registry that others share, one write at a time. Whatever has been
written before a rejection stays. -/
def offer (operator : Operator) : StateM Registry (Except RegistryError Operator) := do
  let registry ← get
  let symbol := operator.header.symbol
  if registry.bySymbol.contains symbol then
    return .error (.duplicateSymbol symbol)
  if registry.byName.contains operator.uniqueName then
    return .error (.duplicateName operator.uniqueName)
  let position := registry.size
  modify fun registry => { registry with bySymbol := registry.bySymbol.insert symbol position }
  modify fun registry =>
    { registry with byName := registry.byName.insert operator.uniqueName position }
  modify fun registry => { registry with operators := registry.operators.push operator }
  return .ok operator

/-- Registers operators one after the other, whether or not those before are rejected. -/
def offerAll : List Operator → StateM Registry (List (Except RegistryError Operator))
  | [] => return []
  | operator :: operators => do
      let answer ← offer operator
      let answers ← offerAll operators
      return answer :: answers

/-- All writes come after both checks. -/
theorem offer_run (registry : Registry) (operator : Operator) :
    (offer operator).run registry =
      match registry.register operator with
      | .ok larger => (.ok operator, larger)
      | .error cause => (.error cause, registry) := by
  rw [register]
  change (ite _ _ _ : StateM Registry _) registry = _
  split
  · rfl
  split
  · rfl
  · rfl

/-- An operator is answered by itself, or by an error. -/
theorem offerAll_answers (registry : Registry) (operators : List Operator) :
    List.Forall₂ (fun operator answer => answer = .ok operator ∨ ∃ cause, answer = .error cause)
      operators ((offerAll operators).run registry).1 := by
  induction operators generalizing registry with
  | nil => exact .nil
  | cons operator operators induction =>
      refine .cons ?_ (induction _)
      change ((offer operator).run registry).1 = .ok operator ∨
        ∃ cause, ((offer operator).run registry).1 = .error cause
      rw [offer_run]
      cases registry.register operator with
      | ok larger => exact .inl rfl
      | error cause => exact .inr ⟨cause, rfl⟩

namespace Consistent

variable {registry : Registry}

/-- Fresh operators are all registered, in order. -/
theorem registerAll_of_nodup (consistent : registry.Consistent) (operators : List Operator)
    (symbols : ((registry.operators.toList ++ operators).map (·.header.symbol)).Nodup)
    (names : ((registry.operators.toList ++ operators).map Operator.uniqueName).Nodup) :
    ∃ larger, registry.registerAll operators = (larger, .ok ()) ∧ larger.Consistent ∧
      larger.operators.toList = registry.operators.toList ++ operators := by
  induction operators generalizing registry with
  | nil => exact ⟨registry, rfl, consistent, (List.append_nil _).symm⟩
  | cons operator operators induction =>
      have fresh : ∀ key : Operator → String,
          ((registry.operators.toList ++ operator :: operators).map key).Nodup →
          ∀ other ∈ registry.operators, key other ≠ key operator := by
        intro key nodup other member same
        rw [List.map_append, List.map_cons] at nodup
        exact List.disjoint_of_nodup_append nodup
          (List.mem_map_of_mem (Array.mem_toList_iff.mpr member)) (same ▸ List.mem_cons_self)
      obtain ⟨larger, added, grown, listed⟩ :=
        consistent.register_of_free (fresh _ symbols) (fresh _ names)
      have split : registry.operators.toList ++ operator :: operators =
          larger.operators.toList ++ operators := by
        rw [listed, Array.toList_push, List.append_assoc]
        rfl
      rw [split] at symbols names ⊢
      rw [registerAll, added]
      exact induction grown symbols names

theorem after_offer (consistent : registry.Consistent) (operator : Operator) :
    ((offer operator).run registry).2.Consistent ∧
      ((offer operator).run registry).2.operators.toList =
        registry.operators.toList ++ ((offer operator).run registry).1.toOption.toList := by
  rw [offer_run]
  by_cases symbol : ∃ other ∈ registry.operators, other.header.symbol = operator.header.symbol
  · rw [consistent.register_of_symbol symbol]
    exact ⟨consistent, (List.append_nil _).symm⟩
  push Not at symbol
  by_cases name : ∃ other ∈ registry.operators, other.uniqueName = operator.uniqueName
  · rw [consistent.register_of_name symbol name]
    exact ⟨consistent, (List.append_nil _).symm⟩
  push Not at name
  obtain ⟨larger, added, grown, listed⟩ := consistent.register_of_free symbol name
  rw [added]
  exact ⟨grown, by rw [listed, Array.toList_push]; rfl⟩

/-- Whatever is offered, a registry stays consistent, and lists what has been accepted. -/
theorem after_offerAll (consistent : registry.Consistent) (operators : List Operator) :
    ((offerAll operators).run registry).2.Consistent ∧
      ((offerAll operators).run registry).2.operators.toList =
        registry.operators.toList ++
          ((offerAll operators).run registry).1.filterMap Except.toOption := by
  induction operators generalizing registry with
  | nil => exact ⟨consistent, (List.append_nil _).symm⟩
  | cons operator operators induction =>
      obtain ⟨kept, listed⟩ := consistent.after_offer operator
      obtain ⟨kept', listed'⟩ := induction kept
      have accepted : ∀ (answer : Except RegistryError Operator) answers,
          (answer :: answers).filterMap Except.toOption =
            answer.toOption.toList ++ answers.filterMap Except.toOption := by
        rintro (_ | _) answers <;> rfl
      refine ⟨kept', listed'.trans ?_⟩
      rw [listed, List.append_assoc]
      exact congrArg (registry.operators.toList ++ ·) (accepted _ _).symm

end Consistent

/-- What the built-in operators show to the outside does not depend on the host. -/
theorem builtins_headers [HostArithmetic] :
    Catalogue.builtins.map Operator.header =
      (@Catalogue.builtins HostArithmetic.absent).map Operator.header := rfl

theorem builtins_consistent [HostArithmetic] :
    builtins.Consistent ∧ builtins.operators.toList = Catalogue.builtins := by
  have symbols : ((Catalogue.builtins.map Operator.header).map Header.symbol).Nodup := by
    rw [builtins_headers]
    decide
  have names : ((Catalogue.builtins.map Operator.header).map Header.uniqueName).Nodup := by
    rw [builtins_headers]
    decide
  rw [List.map_map] at symbols names
  obtain ⟨larger, registered, consistent, listed⟩ :=
    Consistent.empty.registerAll_of_nodup Catalogue.builtins symbols names
  rw [builtins, registered]
  exact ⟨consistent, listed⟩

/-- No symbol of a built-in operator is the unique name of one, and so the order in which keys are
looked up makes no difference. -/
theorem builtins_find?_eq_some_iff [HostArithmetic] {key : String} {operator : Operator} :
    builtins.find? key = some operator ↔
      operator ∈ Catalogue.builtins ∧
        (operator.header.symbol = key ∨ operator.uniqueName = key) := by
  obtain ⟨consistent, listed⟩ := builtins_consistent
  have member : ∀ other, other ∈ builtins.operators ↔ other ∈ Catalogue.builtins := by
    intro other
    rw [← listed, Array.mem_toList_iff]
  have symbols : ∀ other, builtins.findSymbol? key = some other ↔
      other ∈ Catalogue.builtins ∧ other.header.symbol = key := by
    intro other
    rw [consistent.findSymbol?_retrieves, member]
  have names : builtins.findName? key = some operator ↔
      operator ∈ Catalogue.builtins ∧ operator.uniqueName = key := by
    rw [consistent.findName?_retrieves, member]
  have apart : ∀ header ∈ Catalogue.builtins.map Operator.header,
      ∀ named ∈ Catalogue.builtins.map Operator.header, header.symbol ≠ named.uniqueName := by
    rw [builtins_headers]
    decide
  rw [find?]
  cases hit : builtins.findSymbol? key with
  | none =>
      have noSymbol := (symbols operator).not.mp (by simp [hit])
      change builtins.findName? key = some operator ↔ _
      rw [names]
      exact and_congr_right fun among =>
        (or_iff_right fun symbol => noSymbol ⟨among, symbol⟩).symm
  | some other =>
      obtain ⟨otherMember, symbol⟩ := (symbols other).mp hit
      have noName : operator ∈ Catalogue.builtins → operator.uniqueName ≠ key :=
        fun operatorMember name => apart _ (List.mem_map_of_mem otherMember) _
          (List.mem_map_of_mem operatorMember) (symbol.trans name.symm)
      change some other = some operator ↔ _
      rw [← hit, symbols]
      exact and_congr_right fun among => (or_iff_left (noName among)).symm

theorem builtins_find?_eq_none_iff [HostArithmetic] {key : String} :
    builtins.find? key = none ↔
      ∀ operator ∈ Catalogue.builtins,
        operator.header.symbol ≠ key ∧ operator.uniqueName ≠ key := by
  rw [Option.eq_none_iff_forall_ne_some]
  refine forall_congr' fun operator => ?_
  rw [ne_eq, builtins_find?_eq_some_iff]
  tauto

/-- How a registry answers an operator that it is offered, and what becomes of it. -/
structure Answers (registry : Registry) (operator : Operator) : Prop where
  takenSymbol : (∃ other ∈ registry.operators, other.header.symbol = operator.header.symbol) →
    (offer operator).run registry = (.error (.duplicateSymbol operator.header.symbol), registry)
  takenName : (∀ other ∈ registry.operators, other.header.symbol ≠ operator.header.symbol) →
    (∃ other ∈ registry.operators, other.uniqueName = operator.uniqueName) →
    (offer operator).run registry = (.error (.duplicateName operator.uniqueName), registry)
  free : (∀ other ∈ registry.operators, other.header.symbol ≠ operator.header.symbol) →
    (∀ other ∈ registry.operators, other.uniqueName ≠ operator.uniqueName) →
    ∃ larger, (offer operator).run registry = (.ok operator, larger) ∧
      larger.operators = registry.operators.push operator ∧
      (∀ symbol, symbol ≠ operator.header.symbol →
        larger.findSymbol? symbol = registry.findSymbol? symbol) ∧
      ∀ name, name ≠ operator.uniqueName →
        larger.findName? name = registry.findName? name ∧
          larger.require name = registry.require name

theorem Consistent.answers {registry : Registry} (consistent : registry.Consistent)
    (operator : Operator) : registry.Answers operator where
  takenSymbol taken := by rw [offer_run, consistent.register_of_symbol taken]
  takenName free taken := by rw [offer_run, consistent.register_of_name free taken]
  free freeSymbol freeName := by
    obtain ⟨larger, added, grown, pushed⟩ := consistent.register_of_free freeSymbol freeName
    have symbols := grown.findSymbol?_retrieves
    have names := grown.findName?_retrieves
    rw [pushed] at symbols names
    refine ⟨larger, by rw [offer_run, added], pushed, ?_, fun name different => ?_⟩
    · exact fun symbol different => consistent.findSymbol?_retrieves.eq_of_push symbols different
    · have same := consistent.findName?_retrieves.eq_of_push names different
      exact ⟨same, by rw [require, require, same]⟩

/-- Whatever has been offered to the empty registry, or to that of the built-in operators, a
registry lists the operators that it has accepted, in order, and finds each of them by its symbol
and by its unique name. It rejects an operator whose symbol or unique name is taken, and is left as
it was. -/
theorem offerAll_consistent [HostArithmetic] {start : Registry} {earlier : List Operator}
    (initial : start = empty ∧ earlier = [] ∨ start = builtins ∧ earlier = Catalogue.builtins)
    (operators : List Operator) {answers : List (Except RegistryError Operator)}
    {registry : Registry} (ran : (offerAll operators).run start = (answers, registry)) :
    List.Forall₂ (fun operator answer => answer = .ok operator ∨ ∃ cause, answer = .error cause)
        operators answers ∧
      registry.operators.toList = earlier ++ answers.filterMap Except.toOption ∧
      registry.catalogue = .array ((earlier ++ answers.filterMap Except.toOption).map
        fun operator => operator.header.document) ∧
      Finds (·.header.symbol) registry.operators registry.bySymbol registry.findSymbol? ∧
      Finds Operator.uniqueName registry.operators registry.byName registry.findName? ∧
      ∀ operator, registry.Answers operator := by
  have consistent : start.Consistent ∧ start.operators.toList = earlier := by
    rcases initial with ⟨rfl, rfl⟩ | ⟨rfl, rfl⟩
    · exact ⟨.empty, rfl⟩
    · exact builtins_consistent
  have answered := offerAll_answers start operators
  obtain ⟨kept, listed⟩ := consistent.1.after_offerAll operators
  rw [ran] at answered kept
  rw [ran, consistent.2] at listed
  have symbols := kept.symbols.finds kept.findSymbol?_retrieves
  have names := kept.names.finds kept.findName?_retrieves
  refine ⟨answered, listed, ?_, symbols, names, kept.answers⟩
  rw [catalogue, headers, List.map_map, listed]
  rfl

theorem builtins_reject_conjunction :
    (offerAll [Catalogue.conjunction]).run builtins =
        ([.error (.duplicateSymbol "&&")], builtins) ∧
      builtins.operators.toList = Catalogue.builtins ∧
      builtins.findName? "logical.and" = some Catalogue.conjunction := by
  have idle : (offerAll []).run builtins = ([], builtins) := rfl
  obtain ⟨-, listed, -, -, -, answers⟩ := offerAll_consistent (.inr ⟨rfl, rfl⟩) [] idle
  have member : Catalogue.conjunction ∈ builtins.operators := by
    rw [← Array.mem_toList_iff, listed]
    simp [Catalogue.builtins, Catalogue.logical]
  have rejected := (answers Catalogue.conjunction).takenSymbol ⟨_, member, rfl⟩
  have ran : (offerAll [Catalogue.conjunction]).run builtins =
      ([.error (.duplicateSymbol "&&")], builtins) := by
    rw [offerAll, StateT.run_bind, rejected]
    rfl
  obtain ⟨-, listed', -, -, names, -⟩ := offerAll_consistent (.inr ⟨rfl, rfl⟩) _ ran
  obtain ⟨position, inside, stored⟩ := Array.getElem_of_mem member
  refine ⟨ran, listed', ?_⟩
  have found := names.own position inside
  rw [stored] at found
  exact found

end Dataflow.Registry
