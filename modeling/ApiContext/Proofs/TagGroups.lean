import ApiContext.Proofs.OperationMappings
import ApiContext.Proofs.TopLevel

/-! The tags of a compiled context. They divide the mappings of operations by the tags that these
show themselves; a declared tag adds no more than a description. -/
namespace ApiContext
open Model Resolve

/-- What the mapping of a tag shows, given the mappings of all operations. -/
structure TagMapping (spec : Spec) (us : List Context) (n : String) (t : Context) : Prop where
  name : t.get? "name" = some (.text n)
  description : t.get? "description" =
    ((spec.tags.find? (·.name == n)).bind (·.description)).map .text
  operations : t.get? "operations" =
    some (.sequence (us.filter (·.get? "tag" = some (.text n))))
  nonempty : t.get? "operations" ≠ some (.sequence [])

/-- The operations in the mapping of a tag. -/
def Context.grouped (t : Context) : List Context :=
  match t.get? "operations" with
  | some (.sequence us) => us
  | _ => []

/-- Tags that divide operations, none of which is lost or stands twice. -/
structure TagPartition (spec : Spec) (us ts : List Context) (names : List String) : Prop where
  mappings : List.Forall₂ (TagMapping spec us) names ts
  nodup : names.Nodup
  order : names.map .text = (us.filterMap (·.get? "tag")).eraseDups
  tagged : (ts.flatMap (·.grouped)).Perm (us.filter fun u => (u.get? "tag").isSome)

/-- The first tags of operations, each once. -/
def Model.Spec.tagNames (spec : Spec) : List String :=
  (spec.operations.filterMap (·.tags.head?)).eraseDups

variable {p : Profile} {spec : Spec} {j : Journal} {c : Compilation} {n : String}

/-- The trees of operations. -/
def operationTrees (p : Profile) (os : List Operation) : List Context :=
  os.map fun o => (Draft.ofOperation p o).tree

/-- The tree of a tag. -/
def tagTree (p : Profile) (spec : Spec) (n : String) : Context :=
  (tagDraft spec n ((spec.operations.filter (·.tags.head? = some n)).map
    (Draft.ofOperation p))).tree

namespace Draft

theorem get?_tag (o : Operation) :
    (ofOperation p o).tree.get? "tag" = o.tags.head?.map .text :=
  (get?_ofOperation "tag").trans (prune_ofText? _)

theorem pruneElems_operations (os : List Operation) :
    pruneElems (os.map (ofOperation p)) = operationTrees p os :=
  pruneElems_map fun _ _ => rfl

/-- The operations of a first tag are those whose mappings show it. -/
theorem filter_tag (os : List Operation) :
    (operationTrees p os).filter (·.get? "tag" = some (.text n)) =
      operationTrees p (os.filter (·.tags.head? = some n)) := by
  refine filter_map_of_eq (fun o => ?_) os
  rw [get?_tag]
  cases o.tags.head? <;> simp

theorem filter_tagged (os : List Operation) :
    (operationTrees p os).filter (fun u => (u.get? "tag").isSome) =
      operationTrees p (os.filter (·.tags.head?.isSome)) := by
  refine filter_map_of_eq (fun o => ?_) os
  rw [get?_tag, Option.isSome_map]

/-! ### One tag -/

theorem get?_tagTree (key : String) : (tagTree p spec n).get? key =
    ((tagDraft spec n ((spec.operations.filter (·.tags.head? = some n)).map
      (ofOperation p))).get key).prune :=
  get?_tree (by simp [Entries.keys]) key

theorem get?_operations_tagTree : (tagTree p spec n).get? "operations" =
    some (.sequence (operationTrees p (spec.operations.filter (·.tags.head? = some n)))) := by
  rw [← pruneElems_operations]
  exact get?_tagTree "operations"

theorem tagMapping_tagTree (hn : n ∈ spec.tagNames) :
    TagMapping spec (operationTrees p spec.operations) n (tagTree p spec n) where
  name := get?_tagTree "name"
  description := (get?_tagTree "description").trans (prune_ofText? _)
  operations := by rw [get?_operations_tagTree, filter_tag]
  nonempty := by
    rw [Spec.tagNames, List.mem_eraseDups, List.mem_filterMap] at hn
    obtain ⟨o, ho, htag⟩ := hn
    rw [get?_operations_tagTree]
    intro hnil
    simp only [Option.some.injEq, Context.sequence.injEq, operationTrees, List.map_eq_nil_iff,
      List.filter_eq_nil_iff, decide_eq_true_iff] at hnil
    exact hnil o ho htag

/-! ### All tags -/

theorem filterMap_tag (os : List Operation) :
    (operationTrees p os).filterMap (·.get? "tag") =
      (os.filterMap (·.tags.head?)).map .text := by
  rw [operationTrees, List.filterMap_map, List.map_filterMap]
  exact List.filterMap_congr fun o _ => get?_tag o

theorem order_tagNames (p : Profile) (spec : Spec) : spec.tagNames.map .text =
    ((operationTrees p spec.operations).filterMap (·.get? "tag")).eraseDups := by
  have htext : Function.Injective Context.text := fun _ _ h => Context.text.inj h
  rw [filterMap_tag, eraseDups_map htext, Spec.tagNames]

/-- What the tags hold is what the operations are grouped into. -/
theorem flatMap_grouped (p : Profile) (spec : Spec) :
    (spec.tagNames.map (tagTree p spec)).flatMap (·.grouped) = operationTrees p
      ((Entries.groups (·.tags.head?) spec.operations).flatMap (·.2)) := by
  have hgrouped (n : String) : (tagTree p spec n).grouped =
      operationTrees p (spec.operations.filter (·.tags.head? = some n)) := by
    rw [Context.grouped, get?_operations_tagTree]
  rw [List.flatMap_map, operationTrees, List.map_flatMap, Entries.groups, List.flatMap_map]
  exact List.flatMap_congr fun n _ => hgrouped n

theorem tagDrafts_eq (p : Profile) (spec : Spec) :
    ((tagGroups (spec.operations.map fun o => (o, ofOperation p o))).map
      fun (name, ds) => tagDraft spec name ds) = spec.tagNames.map fun n => tagDraft spec n
        ((spec.operations.filter (·.tags.head? = some n)).map (ofOperation p)) := by
  rw [tagGroups_map, tagged_eq_groups, mapGroups, Entries.groups, List.map_map, List.map_map]
  rfl

theorem pruneElems_tags (p : Profile) (spec : Spec) :
    pruneElems ((tagGroups (spec.operations.map fun o => (o, ofOperation p o))).map
      fun (name, ds) => tagDraft spec name ds) = spec.tagNames.map (tagTree p spec) := by
  rw [tagDrafts_eq]
  exact pruneElems_map fun _ _ => rfl

theorem tagPartition (p : Profile) (spec : Spec) : TagPartition spec
    (operationTrees p spec.operations) (spec.tagNames.map (tagTree p spec)) spec.tagNames where
  mappings := by
    rw [List.forall₂_map_right_iff]
    exact List.forall₂_same.mpr fun n hn => tagMapping_tagTree hn
  nodup := nodup_eraseDups _
  order := order_tagNames p spec
  tagged := by
    rw [flatMap_grouped, filter_tagged]
    exact (Entries.groups_perm _ spec.operations).map _

end Draft

theorem get?_operations (h : ((compile spec p).run j).1 = .ok c) :
    c.context.get? "operations" = some (.sequence (operationTrees p spec.operations)) := by
  rw [← Draft.pruneElems_operations]
  exact get?_context h "operations"

theorem get?_tags (h : ((compile spec p).run j).1 = .ok c) :
    c.context.get? "tags" = some (.sequence (spec.tagNames.map (tagTree p spec))) := by
  rw [← Draft.pruneElems_tags]
  exact get?_context h "tags"

/-- The tags of a compiled context divide its operations, which have their own first tags. -/
theorem tags_divide_operations (h : ((compile spec p).run j).1 = .ok c) : ∃ us ts names,
    c.context.get? "operations" = some (.sequence us) ∧
    us.map (·.get? "tag") = spec.operations.map (·.tags.head?.map .text) ∧
    c.context.get? "tags" = some (.sequence ts) ∧ TagPartition spec us ts names := by
  refine ⟨_, _, _, get?_operations h, ?_, get?_tags h, Draft.tagPartition p spec⟩
  rw [operationTrees, List.map_map]
  exact List.map_congr_left fun o _ => Draft.get?_tag o

def Model.Operation.plain (id : String) (tags : List String) : Operation :=
  ⟨.get, "/" ++ id, some id, none, none, tags, [], [], [], false⟩

/-- Two tags in turns, one of them declared twice, and an operation without a tag. -/
def shelter : Spec :=
  { Spec.plain [.plain "walk" ["dogs"], .plain "brush" ["cats", "dogs"], .plain "open" [],
      .plain "train" ["dogs"]] .empty [] with
    tags := [⟨"cats", none⟩, ⟨"birds", some "in cages"⟩, ⟨"cats", some "indoors"⟩] }

theorem tags_divide_operations_shelter : ∃ c us ts,
    ((compile shelter .plain).run .empty).1 = .ok c ∧
    c.context.get? "operations" = some (.sequence us) ∧
    c.context.get? "tags" = some (.sequence ts) ∧ TagPartition shelter us ts ["dogs", "cats"] := by
  obtain ⟨c, hc⟩ : ∃ c, ((compile shelter .plain).run .empty).1 = .ok c :=
    ⟨_, compile_eq_ok_iff.mpr ⟨[], .nil, rfl⟩⟩
  obtain ⟨us, ts, names, hus, htags, hts, hpartition⟩ := tags_divide_operations hc
  have hshown : us.map (·.get? "tag") =
      [some (.text "dogs"), some (.text "cats"), none, some (.text "dogs")] := htags
  have hvalues : us.filterMap (·.get? "tag") = (us.map (·.get? "tag")).filterMap id := by
    rw [List.filterMap_map]
    rfl
  have hnames : names.map Context.text = ["dogs", "cats"].map Context.text := by
    rw [hpartition.order, hvalues, hshown]
    rfl
  have htext : Function.Injective Context.text := fun _ _ h => Context.text.inj h
  obtain rfl := htext.list_map hnames
  exact ⟨c, us, ts, hc, hus, hts, hpartition⟩

end ApiContext
