import Dataflow.Proofs.Catalogue.Strict
import Dataflow.Proofs.Graph.Parts

/-!
# Paths to a leaf

Nothing is cached, so a strict graph reads a leaf again along every path that leads down to it, and
composites on the way multiply the reads. When such a graph yields a value, a leaf has been read as
often as the sum over all paths says, each of them counted with the product of its multiplicities. A
chain of nodes that all read the next one several times takes a power of this number.
-/

namespace Dataflow

open Finset (range)

namespace Graph

/-- A step down in a graph. -/
inductive Step where
  /-- To an item of a list. -/
  | item (index : Nat)
  /-- To what is wired to a slot of an operator. -/
  | input (operator : Operator) (slot : Nat)

/-- How often a step is taken when the graph above it is evaluated once. -/
def Step.multiplicity : Step → Nat
  | item _ => 1
  | input operator slot => operator.multiplicity slot

/-- The paths from a graph down to the leaves with a serial number. -/
inductive Leads (serial : Nat) : List Step → Graph → Prop
  | leaf {source : Leaf} : source.serial = serial → Leads serial [] (leaf source)
  | item {index : Nat} {item : Graph} {path : List Step} {elementType : ValueType}
      {items : List Graph} : items[index]? = some item → Leads serial path item →
      Leads serial (.item index :: path) (list elementType items)
  | input {slot : Nat} {input : Graph} {path : List Step} {operator : Operator}
      {inputs : List Graph} : inputs[slot]? = some input → Leads serial path input →
      Leads serial (.input operator slot :: path) (node operator inputs)

/-! ## All paths -/

mutual

/-- All paths from a graph down to the leaves with a serial number. -/
def paths (serial : Nat) : Graph → List (List Step)
  | constant _ => []
  | leaf source => if source.serial = serial then [[]] else []
  | list _ items => pathsFrom serial .item 0 items
  | node operator inputs => pathsFrom serial (.input operator) 0 inputs

/-- All paths that begin with a step to one of some parts, which are numbered from `index` on. -/
def pathsFrom (serial : Nat) (step : Nat → Step) : (index : Nat) → List Graph → List (List Step)
  | _, [] => []
  | index, part :: parts =>
      (paths serial part).map (step index :: ·) ++ pathsFrom serial step (index + 1) parts

end

variable {serial : Nat} {path : List Step}

theorem leads_list_iff {elementType : ValueType} {items : List Graph} :
    Leads serial path (list elementType items) ↔ ∃ index item rest, items[index]? = some item ∧
      Leads serial rest item ∧ path = .item index :: rest := by
  constructor
  · intro leads
    cases leads with
    | item found leads => exact ⟨_, _, _, found, leads, rfl⟩
  · rintro ⟨index, item, rest, found, leads, rfl⟩
    exact .item found leads

theorem leads_node_iff {operator : Operator} {inputs : List Graph} :
    Leads serial path (node operator inputs) ↔ ∃ slot input rest, inputs[slot]? = some input ∧
      Leads serial rest input ∧ path = .input operator slot :: rest := by
  constructor
  · intro leads
    cases leads with
    | input found leads => exact ⟨_, _, _, found, leads, rfl⟩
  · rintro ⟨slot, input, rest, found, leads, rfl⟩
    exact .input found leads

mutual

theorem mem_paths_iff : ∀ {graph : Graph} {path : List Step},
    path ∈ paths serial graph ↔ Leads serial path graph
  | constant _, path => by
      rw [paths]
      exact ⟨nofun, nofun⟩
  | leaf source, path => by
      rw [paths]
      split
      · rename_i same
        rw [List.mem_singleton]
        constructor
        · rintro rfl
          exact .leaf same
        · rintro ⟨⟩
          rfl
      · rename_i different
        constructor
        · exact nofun
        · rintro ⟨same⟩
          exact absurd same different
  | list elementType items, path => by
      rw [paths, mem_pathsFrom_iff, leads_list_iff]
      simp only [Nat.zero_add]
  | node operator inputs, path => by
      rw [paths, mem_pathsFrom_iff, leads_node_iff]
      simp only [Nat.zero_add]

theorem mem_pathsFrom_iff {step : Nat → Step} : ∀ {index : Nat} {parts : List Graph}
    {path : List Step}, path ∈ pathsFrom serial step index parts ↔
      ∃ offset part rest, parts[offset]? = some part ∧ Leads serial rest part ∧
        path = step (index + offset) :: rest
  | index, [], path => by
      rw [pathsFrom]
      exact ⟨nofun, nofun⟩
  | index, part :: parts, path => by
      rw [pathsFrom, List.mem_append, List.mem_map, mem_pathsFrom_iff]
      constructor
      · rintro (⟨rest, among, rfl⟩ | ⟨offset, other, rest, found, leads, rfl⟩)
        · exact ⟨0, part, rest, rfl, mem_paths_iff.mp among, rfl⟩
        · refine ⟨offset + 1, other, rest, found, leads, ?_⟩
          rw [Nat.add_assoc, Nat.add_comm 1]
      · rintro ⟨_ | offset, other, rest, found, leads, rfl⟩
        · cases found
          exact .inl ⟨rest, mem_paths_iff.mpr leads, rfl⟩
        · refine .inr ⟨offset, other, rest, found, leads, ?_⟩
          rw [Nat.add_assoc, Nat.add_comm 1]

end

mutual

/-- No path is listed twice. -/
theorem nodup_paths : ∀ graph : Graph, (paths serial graph).Nodup
  | constant _ => List.nodup_nil
  | leaf source => by
      rw [paths]
      split
      · exact List.nodup_singleton []
      · exact List.nodup_nil
  | list elementType items => by
      rw [paths]
      exact nodup_pathsFrom (fun _ _ same => Step.item.inj same) 0 items
  | node operator inputs => by
      rw [paths]
      exact nodup_pathsFrom (fun _ _ same => (Step.input.inj same).2) 0 inputs

theorem nodup_pathsFrom {step : Nat → Step} (distinct : Function.Injective step) :
    ∀ (index : Nat) (parts : List Graph), (pathsFrom serial step index parts).Nodup
  | _, [] => List.nodup_nil
  | index, part :: parts => by
      rw [pathsFrom, List.nodup_append]
      refine ⟨(nodup_paths part).map (List.cons_injective), nodup_pathsFrom distinct _ parts, ?_⟩
      rintro _ here _ later rfl
      obtain ⟨rest, -, rfl⟩ := List.mem_map.mp here
      obtain ⟨offset, _, _, _, _, same⟩ := mem_pathsFrom_iff.mp later
      have first := distinct (List.cons.inj same).1
      omega

end

/-! ## Reads along paths -/

theorem valuesOf_reads {counts : Nat → Nat} {items : List Variable}
    (counted : Variable.Counted serial counts items) :
    (valuesOf items).Reads serial (∑ index ∈ range items.length, counts index) := by
  induction items generalizing counts with
  | nil => exact .pure []
  | cons item items induction =>
      have first := counted 0 item rfl
      have later : Variable.Counted serial (fun index => counts (index + 1)) items :=
        fun index part found => counted (index + 1) part found
      have rest := induction later
      rw [valuesOf, List.length_cons, Finset.sum_range_succ', Nat.add_comm]
      exact first.bind fun value => rest.andThen fun values => .pure (value :: values)

/-- The reads of a leaf along some paths: the sum of the products of their multiplicities. -/
def readsAlong (paths : List (List Step)) : Nat :=
  (paths.map fun path => (path.map Step.multiplicity).prod).sum

theorem readsAlong_append (first second : List (List Step)) :
    readsAlong (first ++ second) = readsAlong first + readsAlong second := by
  simp [readsAlong]

/-- A step above some paths multiplies the reads along them. -/
theorem readsAlong_map_cons (step : Step) (paths : List (List Step)) :
    readsAlong (paths.map (step :: ·)) = step.multiplicity * readsAlong paths := by
  simp [readsAlong, Function.comp_def, List.sum_map_mul_left]

/-- The reads of a leaf when one of some parts is evaluated. -/
def partReads (serial : Nat) (parts : List Graph) (index : Nat) : Nat :=
  match parts[index]? with
  | some part => readsAlong (paths serial part)
  | none => 0

theorem readsAlong_pathsFrom (step : Nat → Step) (index : Nat) (parts : List Graph) :
    readsAlong (pathsFrom serial step index parts) =
      ∑ offset ∈ range parts.length,
        (step (index + offset)).multiplicity * partReads serial parts offset := by
  induction parts generalizing index with
  | nil => rfl
  | cons part parts induction =>
      have later : ∀ offset, partReads serial (part :: parts) (offset + 1) =
          partReads serial parts offset := fun _ => rfl
      have shifted : ∀ offset, index + 1 + offset = index + (offset + 1) := by
        intro offset
        omega
      rw [pathsFrom, readsAlong_append, readsAlong_map_cons, induction, List.length_cons,
        Finset.sum_range_succ', Nat.add_comm]
      simp only [later, shifted]
      rfl

/-- A graph yields nothing but after the reads along all paths. -/
theorem value_reads [HostArithmetic] {graph : Graph}
    (made : graph.Over Operator.Strict (fun _ => True) fun _ => True) (serial : Nat) :
    graph.value.Reads serial (readsAlong (graph.paths serial)) := by
  have counted : ∀ parts : List Graph,
      (∀ part ∈ parts, part.value.Reads serial (readsAlong (part.paths serial))) →
      Variable.Counted serial (partReads serial parts) (parts.map toVariable) := by
    intro parts each index input found
    rw [List.getElem?_map, Option.map_eq_some_iff] at found
    obtain ⟨part, there, rfl⟩ := found
    rw [partReads, there]
    exact each part (List.mem_of_getElem? there)
  induction made with
  | constant => exact .pure _
  | @leaf source =>
      have once : readsAlong (paths serial (leaf source)) =
          if source.serial = serial then 1 else 0 := by
        rw [paths]
        split <;> rfl
      rw [once]
      exact .read source
  | @list elementType items _ each =>
      rw [paths, readsAlong_pathsFrom, value, toVariable_list]
      have values := valuesOf_reads (counted items each)
      rw [List.length_map] at values
      simp only [Step.multiplicity, Nat.one_mul]
      exact values.andThen fun values => .newList elementType values
  | @node operator inputs strict _ each =>
      have evaluated := strict.readsByMultiplicity (counted inputs each)
      rw [List.length_map] at evaluated
      rw [paths, readsAlong_pathsFrom, value, toVariable_node]
      simp only [Step.multiplicity, Nat.zero_add]
      exact .recordError _ evaluated

/-! ## Chains -/

/-- A chain of nodes of one operator, each wired to the next one in one slot, down to a leaf.
Nothing else leads to the leaf. -/
inductive Chain (operator : Operator) (slot serial : Nat) : (length : Nat) → Graph → Prop
  | leaf {source : Leaf} : source.serial = serial → Chain operator slot serial 0 (leaf source)
  | node {length : Nat} {next : Graph} {inputs : List Graph} :
      Chain operator slot serial length next → inputs[slot]? = some next →
      (∀ (other : Nat) (input : Graph), other ≠ slot → inputs[other]? = some input →
        ∀ path, ¬ input.Leads serial path) →
      Chain operator slot serial (length + 1) (node operator inputs)

theorem Chain.readsAlong_paths {operator : Operator} {slot length : Nat} {graph : Graph}
    (chain : graph.Chain operator slot serial length) :
    readsAlong (graph.paths serial) = operator.multiplicity slot ^ length := by
  induction chain with
  | leaf same =>
      rw [paths, if_pos same]
      rfl
  | @node length next inputs _ found apart induction =>
      have onward : partReads serial inputs slot = operator.multiplicity slot ^ length := by
        rw [partReads, found]
        exact induction
      have elsewhere : ∀ other, other ≠ slot → partReads serial inputs other = 0 := by
        intro other different
        rw [partReads]
        split
        · rename_i input there
          have none : paths serial input = [] :=
            List.eq_nil_iff_forall_not_mem.mpr fun path among =>
              apart other input different there path (mem_paths_iff.mp among)
          rw [none]
          rfl
        · rfl
      have inside : slot ∈ range inputs.length :=
        Finset.mem_range.mpr (List.getElem?_eq_some_iff.mp found).1
      have single : ∀ other ∈ range inputs.length, other ≠ slot →
          operator.multiplicity other * partReads serial inputs other = 0 := by
        intro other _ different
        rw [elsewhere other different, Nat.mul_zero]
      rw [paths, readsAlong_pathsFrom]
      simp only [Step.multiplicity, Nat.zero_add]
      rw [Finset.sum_eq_single_of_mem slot inside single, onward, Nat.pow_succ, Nat.mul_comm]

/-- When a strict graph yields a value, each leaf has been read once for every path that leads to
it, times the product of the multiplicities on the path. Through a chain of nodes the start is read
as often as a power of one multiplicity says. -/
theorem reads_along_paths [HostArithmetic] {graph : Graph}
    (made : graph.Over Operator.Strict (fun _ => True) fun _ => True) {trace later : Trace}
    {value : Value} (yielded : graph.value.after trace = (.ok value, later)) (serial : Nat) :
    ∃ events, later.events = events ++ trace.events ∧
      (∃ paths : Finset (List Step), (∀ path, path ∈ paths ↔ graph.Leads serial path) ∧
        readsOf serial events = ∑ path ∈ paths, (path.map Step.multiplicity).prod) ∧
      ∀ operator slot length, graph.Chain operator slot serial length →
        readsOf serial events = operator.multiplicity slot ^ length := by
  obtain ⟨events, extended, counted⟩ := value_reads made serial trace
  rw [yielded] at extended counted
  have reads := counted value rfl
  refine ⟨events, extended, ⟨⟨graph.paths serial, nodup_paths graph⟩, ?_, reads⟩, ?_⟩
  · exact fun path => mem_paths_iff
  · intro operator slot length chain
    rw [reads, chain.readsAlong_paths]

/-- Whether a truth value or the same truth value holds. -/
def twice : Operator :=
  Operator.composition Catalogue.disjunction [Catalogue.identity, Catalogue.identity] 1 "twice"
    "twice" .leading "logical"

/-- A leaf that holds. -/
def holding : Leaf := .steady 0 .boolean (.ok (.boolean true))

/-- The disjunction would not need its second operand, but both are evaluated before. -/
theorem reads_along_paths_twice :
    ∃ later, (node twice [node twice [node twice [leaf holding]]]).value.after .empty =
        (.ok (.boolean true), later) ∧ readsOf 0 later.events = 8 := by
  have derived : Operator.Derived Catalogue.disjunction :=
    .builtin (by simp [Catalogue.builtins, Catalogue.logical])
  have identity : Operator.Strict Catalogue.identity := by
    refine .builtin (by simp [Catalogue.builtins, Catalogue.general]) fun among => ?_
    have named := List.mem_map_of_mem (f := (·.header.symbol)) among
    exact absurd named (by decide)
  have inners : ∀ inner ∈ [Catalogue.identity, Catalogue.identity], inner.Strict := by
    simpa using identity
  have composed : Catalogue.disjunction.compose [Catalogue.identity, Catalogue.identity] "twice"
      "twice" .leading "logical" = .ok twice := rfl
  have strict : Operator.Strict twice := .composed derived inners composed
  have next : ∀ graph : Graph, graph.Over Operator.Strict (fun _ => True) (fun _ => True) →
      (node twice [graph]).Over Operator.Strict (fun _ => True) fun _ => True :=
    fun graph made => .node strict (List.forall_mem_singleton.mpr made)
  have link : ∀ (graph : Graph) (length : Nat), graph.Chain twice 0 0 length →
      (node twice [graph]).Chain twice 0 0 (length + 1) := by
    intro graph length chain
    refine .node chain rfl ?_
    rintro (_ | other) input different there
    · exact absurd rfl different
    · cases there
  have made := next _ (next _ (next (leaf holding) (.leaf trivial)))
  have chain := link _ _ (link _ _ (link (leaf holding) 0 (.leaf rfl)))
  have yielded : (node twice [node twice [node twice [leaf holding]]]).value.after .empty =
      (.ok (.boolean true), _) := rfl
  obtain ⟨events, extended, -, power⟩ := reads_along_paths made yielded 0
  refine ⟨_, yielded, ?_⟩
  rw [extended, Trace.empty, List.append_nil, power twice 0 3 chain]
  rfl

end Graph

end Dataflow
