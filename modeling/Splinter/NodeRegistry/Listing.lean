import Splinter.NodeRegistry.Yaml

/-!
# Filtered listings

`list_nodes` is meant to give a page of the nodes that pass all filters.  It
cuts a page after each filter, and none when the filter map is empty.
-/

namespace Splinter.NodeRegistry

open Library

/-! ## What is meant -/

def FilterEntry.passes (entry : FilterEntry) (node : Node) : Bool :=
  (Operator.parse entry.operator).any fun operator =>
    operator.selects entry.key entry.value node

def satisfies (filters : Option Filters) (node : Node) : Bool :=
  filters.all fun filters => filters.entries.all fun entry => entry.passes node

/-- The nodes that pass, without the first `offset` and at most `limit`. -/
def matchingPage (nodes : List Node) (filters : Option Filters)
    (limit offset : Option Nat) : List Node :=
  let found := (nodes.filter (satisfies filters)).drop (offset.getD 0)
  match limit with
  | some limit => found.take limit
  | none => found

/-- All operators of the filters exist. -/
def Known (filters : Option Filters) : Prop := ∀ given ∈ filters, ∀ entry ∈ given.entries,
    (Operator.parse entry.operator).isSome = true

def FilterEntry.Unsatisfiable (entry : FilterEntry) : Prop :=
  entry.operator = "<" ∧ entry.value = ""

/-- Without a filter map or with one filter the page is cut once.  Otherwise
the page must be everything, or nothing. -/
def CutsOnce (filters : Option Filters) (limit offset : Option Nat) : Prop := ∀ given ∈ filters,
    given.entries.length = 1 ∨ (offset.getD 0 = 0 ∧ limit = none) ∨
      (given.entries ≠ [] ∧ (limit = some 0 ∨ ∃ entry ∈ given.entries, entry.Unsatisfiable))

/-! ## What is computed -/

section Computed

variable {nodes : List Node} {given : Filters} {limit offset : Option Nat}

theorem foldlM_applyFilter {offsetValue limitValue : Nat} {entries : List FilterEntry}
    (known : ∀ entry ∈ entries, (Operator.parse entry.operator).isSome = true) :
    entries.foldlM (applyFilter offsetValue limitValue) nodes = .ok
      (filterPages limitValue offsetValue (entries.map FilterEntry.passes) nodes) := by
  induction entries generalizing nodes with
  | nil => rfl
  | cons entry entries ih =>
    obtain ⟨first, others⟩ := List.forall_mem_cons.mp known
    obtain ⟨operator, parsed⟩ := Option.isSome_iff_exists.mp first
    have step : applyFilter offsetValue limitValue nodes entry =
        .ok (page limitValue offsetValue (nodes.filter entry.passes)) := by
      have passes : entry.passes = operator.selects entry.key entry.value := by
        funext node
        simp [FilterEntry.passes, parsed]
      simp only [applyFilter, parsed, passes]
      rfl
    rw [List.foldlM_cons, step]
    exact ih others

theorem listNodes_some (known : Known (some given)) : listNodes nodes (some given) limit offset =
    .ok
      (filterPages (limit.getD nodes.length) (offset.getD 0)
        (given.entries.map FilterEntry.passes) nodes) :=
  foldlM_applyFilter (known given rfl)

theorem satisfies_some (node : Node) : satisfies (some given) node =
    (given.entries.map FilterEntry.passes).all fun filter =>
      filter node := by
  simp [satisfies, Function.comp_def]

theorem matchingPage_eq_page (nodes : List Node) (filters : Option Filters)
    (limit offset : Option Nat) :
    matchingPage nodes filters limit offset = page (limit.getD nodes.length) (offset.getD 0)
      (nodes.filter (satisfies filters)) := by
  cases limit with
  | some limit => rfl
  | none =>
    refine (List.take_of_length_le ?_).symm
    exact Nat.le_trans (List.drop_sublist _ _).length_le (List.length_filter_le _ _)

theorem not_passes_of_unsatisfiable {entry : FilterEntry} (unsatisfiable : entry.Unsatisfiable)
    (node : Node) :
    entry.passes node = false := by
  obtain ⟨less, empty⟩ := unsatisfiable
  have parsed : Operator.parse entry.operator = some .less := by
    rw [less]
    rfl
  simp only [FilterEntry.passes, parsed, Option.any_some]
  unfold Operator.selects
  cases node.metadata.lookup entry.key with
  | none => rfl
  | some currentValue =>
    refine decide_eq_false ?_
    rw [empty, String.lt_iff_toList_lt]
    exact List.not_lt_nil _

theorem listNodes_of_cutsOnce {filters : Option Filters} (known : Known filters)
    (once : CutsOnce filters limit offset) (nodes : List Node) :
    listNodes nodes filters limit offset = .ok (matchingPage nodes filters limit offset) := by
  rw [matchingPage_eq_page]
  cases filters with
  | none =>
    have all : nodes.filter (satisfies none) = nodes := List.filter_eq_self.mpr fun _ _ => rfl
    rw [all]
    rfl
  | some given =>
    rw [listNodes_some known]
    refine congrArg Except.ok ?_
    rcases once given rfl with
      single | ⟨start, unlimited⟩ | ⟨nonempty, zero | impossible⟩
    · obtain ⟨entry, shape⟩ := List.length_eq_one_iff.mp single
      have same : nodes.filter (satisfies (some given)) = nodes.filter entry.passes := by
        refine List.filter_congr fun node _ => ?_
        rw [satisfies_some, shape]
        simp
      rw [same, shape]
      rfl
    · have same : nodes.filter (satisfies (some given)) = nodes.filter fun node =>
          (given.entries.map FilterEntry.passes).all fun filter =>
            filter node :=
        List.filter_congr fun node _ => satisfies_some node
      rw [start, unlimited, Option.getD_none, filterPages_whole (Nat.le_refl _), same,
        page_zero_of_length_le (List.length_filter_le _ _)]
    · rw [zero]
      refine (filterPages_zero ?_).trans List.take_zero.symm
      exact fun empty => nonempty (List.map_eq_nil_iff.mp empty)
    · obtain ⟨entry, member, unsatisfiable⟩ := impossible
      have none : nodes.filter (satisfies (some given)) = [] := by
        rw [List.filter_eq_nil_iff]
        intro node _ passes
        rw [satisfies_some, List.all_eq_true] at passes
        have passed := passes _ (List.mem_map_of_mem member)
        rw [not_passes_of_unsatisfiable unsatisfiable] at passed
        cases passed
      rw [none, page_nil, List.eq_nil_iff_forall_not_mem]
      intro node kept
      have passed := (mem_of_mem_filterPages kept).2 _ (List.mem_map_of_mem member)
      rw [not_passes_of_unsatisfiable unsatisfiable] at passed
      cases passed

end Computed

/-! ## Nodes that pass -/

def FilterEntry.candidate (entry : FilterEntry) : String :=
  match Operator.parse entry.operator with
  | some .less => ""
  | some .greater => entry.value ++ "a"
  | some .notEqual => entry.value ++ "a"
  | _ => entry.value

theorem lt_append (text : String) : text < text ++ "a" := by
  rw [String.lt_iff_toList_lt, String.toList_append]
  induction text.toList with
  | nil => exact List.nil_lt_cons _ _
  | cons first rest ih => exact List.cons_lt_cons_iff.mpr (Or.inr ⟨rfl, ih⟩)

theorem empty_lt {text : String} (nonempty : text ≠ "") : "" < text := by
  rw [String.lt_iff_toList_lt]
  cases shape : text.toList with
  | nil => exact absurd (String.toList_eq_nil_iff.mp shape) nonempty
  | cons first rest => exact List.nil_lt_cons _ _

theorem operator_of_parse_less {operator : String} (parsed : Operator.parse operator = some .less) :
    operator = "<" := by
  unfold Operator.parse at parsed
  split at parsed <;> simp_all

variable {entry : FilterEntry}

theorem holds_candidate {operator : Operator}
    (parsed : Operator.parse entry.operator = some operator) (satisfiable : ¬ entry.Unsatisfiable) :
    operator.holds entry.candidate entry.value = true := by
  unfold FilterEntry.candidate
  rw [parsed]
  cases operator with
  | equal => exact decide_eq_true rfl
  | greater => exact decide_eq_true (lt_append entry.value)
  | less =>
    refine decide_eq_true (empty_lt ?_)
    intro empty
    exact satisfiable ⟨operator_of_parse_less parsed, empty⟩
  | lessOrEqual => exact decide_eq_true (le_refl _)
  | greaterOrEqual => exact decide_eq_true (le_refl _)
  | notEqual => exact decide_eq_true (ne_of_gt (lt_append entry.value))

variable {node : Node} {entries : List FilterEntry} {filters : Option Filters}
  {limit offset : Option Nat}

theorem passes_of_lookup (known : (Operator.parse entry.operator).isSome = true)
    (satisfiable : ¬ entry.Unsatisfiable)
    (present : node.metadata.lookup entry.key = some entry.candidate) :
    entry.passes node = true := by
  obtain ⟨operator, parsed⟩ := Option.isSome_iff_exists.mp known
  simp only [FilterEntry.passes, parsed, Option.any_some, Operator.selects, present]
  exact holds_candidate parsed satisfiable

theorem not_passes_of_lookup_none (absent : node.metadata.lookup entry.key = none) :
    entry.passes node = false := by
  cases parsed : Operator.parse entry.operator with
  | none => simp only [FilterEntry.passes, parsed, Option.any_none]
  | some operator => simp [FilterEntry.passes, parsed, Operator.selects, absent]

/-- A node with a value for each key of the filters. -/
def candidateNode (entries : List FilterEntry) : Node where
  identity := "candidate"
  metadata :=
    (entries.map fun entry =>
      (⟨entry.key, entry.candidate⟩ : Sigma fun _ : String => String)).toFinmap

theorem lookup_candidateNode
    (distinct : (entries.map FilterEntry.key).Nodup) (member : entry ∈ entries) :
    (candidateNode entries).metadata.lookup entry.key = some entry.candidate := by
  unfold candidateNode
  rw [Finmap.dlookup_list_toFinmap]
  refine List.mem_dlookup ?_ (List.mem_map_of_mem member)
  unfold List.NodupKeys List.keys
  rw [List.map_map]
  exact distinct

theorem lookup_candidateNode_none (absent : entry.key ∉ entries.map FilterEntry.key) :
    (candidateNode entries).metadata.lookup entry.key = none := by
  unfold candidateNode
  rw [Finmap.dlookup_list_toFinmap, List.dlookup_eq_none]
  unfold List.keys
  rw [List.map_map]
  exact absent

/-! ## More than one cut -/

section Necessity

variable {given : Filters} {limit offset : Option Nat}
  (right : ∀ nodes, filterPages (limit.getD nodes.length) (offset.getD 0)
          (given.entries.map FilterEntry.passes) nodes =
        page (limit.getD nodes.length) (offset.getD 0) (nodes.filter (satisfies (some given))))

include right

theorem unpaged_of_no_entries (empty : given.entries = []) : offset.getD 0 = 0 ∧ limit = none := by
  have whole := congrArg List.length (right (List.replicate (limit.getD 0 + 1) (candidateNode [])))
  have all (nodes : List Node) : nodes.filter (satisfies (some given)) = nodes := by
    rw [List.filter_eq_self]
    intro node _
    rw [satisfies_some, empty]
    rfl
  rw [all, empty] at whole
  change (List.replicate _ _).length = _ at whole
  rw [page, List.length_take, List.length_drop, List.length_replicate] at whole
  cases limit with
  | none =>
    simp only [Option.getD_none] at whole
    exact ⟨by omega, rfl⟩
  | some limit =>
    simp only [Option.getD_some] at whole
    omega

section TwoEntries

variable {first second : FilterEntry} {others : List FilterEntry}
  (shape : given.entries = first :: second :: others)
  (known : ∀ entry ∈ given.entries, (Operator.parse entry.operator).isSome = true)
  (satisfiable : ∀ entry ∈ given.entries, ¬ entry.Unsatisfiable)

include shape known satisfiable

omit right shape in
theorem passes_candidateNode {entry : FilterEntry} (member : entry ∈ given.entries) :
    entry.passes (candidateNode given.entries) = true :=
  passes_of_lookup (known entry member) (satisfiable entry member)
    (lookup_candidateNode given.distinct member)

omit right shape in
theorem satisfies_candidateNode : satisfies (some given) (candidateNode given.entries) = true := by
  rw [satisfies_some, List.all_map, List.all_eq_true]
  exact fun _ => passes_candidateNode known satisfiable

omit right in
theorem passes_first_only : first.passes (candidateNode [first]) = true ∧
    second.passes (candidateNode [first]) = false := by
  have member : first ∈ given.entries := by
    rw [shape]
    exact List.mem_cons_self ..
  constructor
  · have single : ([first].map FilterEntry.key).Nodup := List.nodup_singleton _
    exact passes_of_lookup (known first member) (satisfiable first member)
      (lookup_candidateNode single (List.mem_singleton.mpr rfl))
  · refine not_passes_of_lookup_none (lookup_candidateNode_none ?_)
    have distinct := given.distinct
    rw [shape, List.map_cons, List.map_cons, List.nodup_cons] at distinct
    intro same
    rw [List.map_singleton, List.mem_singleton] at same
    rw [same] at distinct
    exact distinct.1 (List.mem_cons_self ..)

theorem limit_eq_none_of_two_entries (start : offset.getD 0 = 0) (nonzero : limit ≠ some 0) :
    limit = none := by
  cases bounded : limit with
  | none => rfl
  | some count =>
    exfalso
    obtain ⟨onlyFirst, notSecond⟩ := passes_first_only shape known satisfiable
    have matched := satisfies_candidateNode known satisfiable
    have unmatched : satisfies (some given) (candidateNode [first]) = false := by
      rw [satisfies_some, shape]
      simp [notSecond]
    have found :
        (List.replicate count (candidateNode [first]) ++ [candidateNode given.entries]).filter
          (satisfies (some given)) =
          [candidateNode given.entries] := by
      rw [List.filter_append]
      simp [unmatched, matched]
    have passed : first.passes (candidateNode given.entries) = true := by
      refine passes_candidateNode known satisfiable ?_
      rw [shape]
      exact List.mem_cons_self ..
    have listed := right
      (List.replicate count (candidateNode [first]) ++ [candidateNode given.entries])
    have kept : [candidateNode given.entries].length ≤ count := by
      refine Nat.pos_of_ne_zero fun zero => ?_
      rw [bounded, zero] at nonzero
      exact nonzero rfl
    rw [found, start, bounded, Option.getD_some, page_zero_of_length_le kept] at listed
    simp only [shape, List.map_cons] at listed passed
    rw [filterPages_limited onlyFirst passed notSecond] at listed
    cases listed

theorem offset_eq_zero_of_two_entries (nonzero : limit ≠ some 0) : offset.getD 0 = 0 := by
  by_contra skips
  have passes (entry : FilterEntry) (member : entry ∈ given.entries) :
      entry.passes (candidateNode given.entries) = true :=
    passes_candidateNode known satisfiable member
  have matched := satisfies_candidateNode known satisfiable
  have listed := right (List.replicate (offset.getD 0 + 1) (candidateNode given.entries))
  have room : limit.getD
      (List.replicate (offset.getD 0 + 1) (candidateNode given.entries)).length ≠ 0 := by
    cases limit with
    | none =>
      rw [Option.getD_none, List.length_replicate]
      exact Nat.succ_ne_zero _
    | some count => exact fun zero => nonzero (congrArg some zero)
  have found :
      (List.replicate (offset.getD 0 + 1)
        (candidateNode given.entries)).filter (satisfies (some given)) =
        List.replicate (offset.getD 0 + 1) (candidateNode given.entries) := by
    simp [matched]
  rw [found, page_replicate_succ room] at listed
  simp only [shape, List.map_cons] at listed passes room
  rw [filterPages_skipped (passes first (List.mem_cons_self ..))
    (passes second (List.mem_cons_of_mem _ (List.mem_cons_self ..))) room
    skips] at listed
  cases listed

end TwoEntries

end Necessity

theorem cutsOnce_of_listNodes (known : Known filters)
    (right : ∀ nodes, listNodes nodes filters limit offset =
      .ok (matchingPage nodes filters limit offset)) :
    CutsOnce filters limit offset := by
  intro given member
  obtain rfl := member
  have computed (nodes : List Node) : filterPages (limit.getD nodes.length) (offset.getD 0)
      (given.entries.map FilterEntry.passes) nodes =
      page (limit.getD nodes.length) (offset.getD 0) (nodes.filter (satisfies (some given))) := by
    have listed := right nodes
    rw [listNodes_some known, matchingPage_eq_page] at listed
    exact Except.ok.inj listed
  cases shape : given.entries with
  | nil => exact Or.inr (Or.inl (unpaged_of_no_entries computed shape))
  | cons first rest =>
    cases rest with
    | nil => exact Or.inl rfl
    | cons second others =>
      refine Or.inr ?_
      rw [← shape]
      by_cases degenerate : limit = some 0 ∨ ∃ entry ∈ given.entries, entry.Unsatisfiable
      · refine Or.inr ⟨?_, degenerate⟩
        rw [shape]
        exact List.cons_ne_nil _ _
      · rw [not_or] at degenerate
        have satisfiable : ∀ entry ∈ given.entries, ¬ entry.Unsatisfiable :=
          fun entry member unsatisfiable =>
            degenerate.2 ⟨entry, member, unsatisfiable⟩
        have start := offset_eq_zero_of_two_entries computed shape (known given rfl)
          satisfiable degenerate.1
        exact Or.inl
          ⟨start, limit_eq_none_of_two_entries computed shape
            (known given rfl) satisfiable start degenerate.1⟩

/-! ## Iteration order and pages -/

theorem listNodes_congr_of_perm {given other : Filters}
    (known : Known (some given)) (once : CutsOnce (some given) limit offset)
    (reordered : other.entries.Perm given.entries) (nodes : List Node) :
    listNodes nodes (some other) limit offset = listNodes nodes (some given) limit offset := by
  have knownOther : Known (some other) := by
    intro same member entry listed
    obtain rfl := Option.mem_some.mp member
    exact known given rfl entry (reordered.mem_iff.mp listed)
  have onceOther : CutsOnce (some other) limit offset := by
    intro same member
    obtain rfl := Option.mem_some.mp member
    rcases once given rfl with single | unpaged | ⟨nonempty, degenerate⟩
    · exact Or.inl (reordered.length_eq.trans single)
    · exact Or.inr (Or.inl unpaged)
    · refine Or.inr (Or.inr ⟨?_, ?_⟩)
      · intro empty
        rw [empty] at reordered
        exact nonempty reordered.nil_eq.symm
      · refine degenerate.imp_right ?_
        intro impossible
        obtain ⟨entry, member, unsatisfiable⟩ := impossible
        exact ⟨entry, reordered.mem_iff.mpr member, unsatisfiable⟩
  have same : satisfies (some other) = satisfies (some given) := by
    funext node
    exact reordered.all_eq
  rw [listNodes_of_cutsOnce knownOther onceOther,
    listNodes_of_cutsOnce known once, matchingPage_eq_page,
    matchingPage_eq_page, same]

theorem flatten_pages {limit : Nat} (known : Known filters)
    (once : ∀ offset, CutsOnce filters (some limit) (some offset)) {nodes : List Node} {count : Nat}
    (enough : nodes.length ≤ count * limit) :
    List.flatten <$>
      (List.range count).mapM (fun index =>
        listNodes nodes filters (some limit) (some (index * limit))) =
      listNodes nodes filters none none := by
  have pages (index : Nat) : listNodes nodes filters (some limit) (some (index * limit)) = pure
      (page limit (index * limit) (nodes.filter (satisfies filters))) := by
    rw [listNodes_of_cutsOnce known (once _), matchingPage_eq_page]
    rfl
  have unpaged : CutsOnce filters none none := fun _ _ => Or.inr (Or.inl ⟨rfl, rfl⟩)
  have fits : (nodes.filter (satisfies filters)).length ≤ count * limit :=
    Nat.le_trans (List.length_filter_le _ _) enough
  simp only [pages]
  rw [List.mapM_pure, listNodes_of_cutsOnce known unpaged, map_pure,
    ← List.flatMap_def, flatMap_page_of_length_le fits]
  rfl

/-- A listing is the page that is meant, for all registries, exactly if the
page is cut once; then it does not depend on the order of the filters, and the
pages make up the listing. -/
theorem listNodes_eq_iff (filters : Option Filters) (known : Known filters) :
    (∀ limit offset,
      (∀ nodes, listNodes nodes filters limit offset =
            .ok (matchingPage nodes filters limit offset)) ↔
        CutsOnce filters limit offset) ∧
    (∀ limit offset, CutsOnce filters limit offset → ∀ given ∈ filters, ∀ other : Filters,
        other.entries.Perm given.entries →
        ∀ nodes, listNodes nodes (some other) limit offset = listNodes nodes filters limit offset) ∧
    ∀ limit, (∀ offset, CutsOnce filters (some limit) (some offset)) →
      ∀ nodes count, nodes.length ≤ count * limit → List.flatten <$>
            (List.range count).mapM (fun index =>
              listNodes nodes filters (some limit) (some (index * limit))) =
          listNodes nodes filters none none := by
  refine ⟨?_, ?_, ?_⟩
  · intro limit offset
    exact ⟨cutsOnce_of_listNodes known, fun once nodes => listNodes_of_cutsOnce known once nodes⟩
  · intro limit offset once given member other reordered nodes
    obtain rfl := member
    exact listNodes_congr_of_perm known once reordered nodes
  · intro limit once nodes count enough
    exact flatten_pages known once enough

def redOnly : FilterEntry := ⟨"colour", "=", "red"⟩

def roundOnly : FilterEntry := ⟨"shape", "=", "round"⟩

def redNode : Node := ⟨"red", Finmap.singleton "colour" "red"⟩

def roundNode : Node := ⟨"round", (Finmap.singleton "colour" "red").insert "shape" "round"⟩

/-- The first page of one node is empty or not, depending on which filter comes
first, and an empty filter map gives two nodes. -/
theorem listing_depends_on_order :
    matchingPage [redNode, roundNode] (some ⟨[redOnly, roundOnly], by decide⟩)
        (some 1) (some 0) = [roundNode] ∧
      listNodes [redNode, roundNode] (some ⟨[redOnly, roundOnly], by decide⟩)
          (some 1) (some 0) = .ok [] ∧
        listNodes [redNode, roundNode] (some ⟨[roundOnly, redOnly], by decide⟩)
            (some 1) (some 0) = .ok [roundNode] ∧
          listNodes [redNode, roundNode] (some ⟨[], List.nodup_nil⟩)
              (some 1) (some 0) = .ok [redNode, roundNode] := by
  refine ⟨?_, ?_, ?_, rfl⟩ <;> decide +kernel

/-- With one filter the pages make up the listing. -/
theorem listing_with_one_filter : Known (some ⟨[redOnly], by decide⟩) ∧
      (∀ nodes, listNodes nodes (some ⟨[redOnly], by decide⟩) (some 1) (some 1) = .ok
            (matchingPage nodes (some ⟨[redOnly], by decide⟩) (some 1) (some 1))) ∧
        List.flatten <$>
            (List.range 2).mapM (fun index =>
              listNodes [redNode, roundNode] (some ⟨[redOnly], by decide⟩)
                (some 1) (some (index * 1))) =
          listNodes [redNode, roundNode] (some ⟨[redOnly], by decide⟩) none none := by
  have known : Known (some ⟨[redOnly], by decide⟩) := by
    intro given member
    obtain rfl := Option.mem_some.mp member
    decide
  have once (limit offset : Option Nat) : CutsOnce (some ⟨[redOnly], by decide⟩) limit offset := by
    intro given member
    obtain rfl := Option.mem_some.mp member
    exact Or.inl rfl
  obtain ⟨meant, _, pages⟩ := listNodes_eq_iff (some ⟨[redOnly], by decide⟩) known
  exact
    ⟨known, (meant (some 1) (some 1)).mpr (once _ _),
      pages 1 (fun _ => once _ _) [redNode, roundNode] 2 (by decide)⟩

end Splinter.NodeRegistry
