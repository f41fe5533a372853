import CoinPuzzles.Puzzle.Node
import CoinPuzzles.Template.Names
import Mathlib.Data.List.Basic

/-!
# Proofs/Puzzle/Shape — what the path of a node tells

The shape of a node is what is left of it without its leaves and its flags: a tree of template
names.  The path of a node is the text of its shape (`Node.toList_path`), and no text of a shape
goes on in another (`Shape.chars_append_inj`): a name ends at its bracket, and what stands in the
brackets splits at the commas of this level.  Main statement: `Node.path_identifies_shape`.
-/

namespace CoinPuzzles

/-- A name has none of the characters that set the names of a path apart. -/
def IsPlainName (name : String) : Prop := ∀ c ∈ name.toList, c ≠ '(' ∧ c ≠ ')' ∧ c ≠ ','

instance (name : String) : Decidable (IsPlainName name) :=
  List.decidableBAll (fun c => c ≠ '(' ∧ c ≠ ')' ∧ c ≠ ',') name.toList

/-- A tree of template names. -/
inductive Shape where
  | node (name : String) (children : List Shape)

namespace Shape

/-! ## The names and the text of a shape -/

mutual

/-- The names in a shape. -/
def names : Shape → List String
  | node name children => name :: namesAll children

/-- The names in shapes. -/
def namesAll : List Shape → List String
  | [] => []
  | s :: rest => names s ++ namesAll rest

end

mutual

/-- The text of a shape: its name, and its children in brackets. -/
def chars : Shape → List Char
  | node name children => name.toList ++ '(' :: charsFirst children

/-- What follows an opening bracket: the children, and the bracket that closes them. -/
def charsFirst : List Shape → List Char
  | [] => [')']
  | s :: rest => chars s ++ charsNext rest

/-- What follows a child: the other children, each after a comma, and the closing bracket. -/
def charsNext : List Shape → List Char
  | [] => [')']
  | s :: rest => ',' :: (chars s ++ charsNext rest)

end

/-- The characters of a list of shapes, with commas between them and a bracket at the end. -/
theorem charsFirst_eq (ss : List Shape) :
    charsFirst ss = List.intercalate [','] (ss.map chars) ++ [')'] := by
  cases ss with
  | nil => rfl
  | cons s rest =>
    rw [charsFirst]
    induction rest generalizing s with
    | nil => rw [charsNext, List.map_cons, List.map_nil, List.intercalate_singleton]
    | cons t rest ih =>
      rw [charsNext, ih t, List.map_cons, List.map_cons, List.map_cons,
        List.intercalate_cons_cons, List.append_assoc, List.append_assoc, List.singleton_append]

/-! ## Reading a text back -/

/-- What stands in front of the first occurrence of an element is determined. -/
theorem append_cons_inj_of_first {α : Type} {a : α} {u v : List α} : ∀ {s t : List α}, a ∉ s →
    a ∉ t → s ++ a :: u = t ++ a :: v → s = t ∧ u = v
  | [], [], _, _, h => ⟨rfl, (List.cons.inj h).2⟩
  | [], b :: t, _, ht, h => absurd ((List.cons.inj h).1 ▸ List.mem_cons_self) ht
  | b :: s, [], hs, _, h => absurd ((List.cons.inj h).1 ▸ List.mem_cons_self) hs
  | b :: s, c :: t, hs, ht, h => by
    rw [List.cons_append, List.cons_append] at h
    obtain ⟨rfl, hrest⟩ := List.cons.inj h
    obtain ⟨rfl, rfl⟩ := append_cons_inj_of_first (fun hm => hs (List.mem_cons_of_mem b hm))
      (fun hm => ht (List.mem_cons_of_mem b hm)) hrest
    exact ⟨rfl, rfl⟩

/-- **A plain name ends at its bracket**, since it has none of its own. -/
theorem name_append_inj {m n : String} {u v : List Char} (hm : IsPlainName m)
    (hn : IsPlainName n) (h : m.toList ++ '(' :: u = n.toList ++ '(' :: v) : m = n ∧ u = v := by
  obtain ⟨hname, hrest⟩ := append_cons_inj_of_first (fun hc => (hm _ hc).1 rfl)
    (fun hc => (hn _ hc).1 rfl) h
  exact ⟨String.toList_inj.1 hname, hrest⟩

/-- The text of a shape does not start with a closing bracket. -/
theorem chars_append_ne {s : Shape} (hs : ∀ name ∈ s.names, IsPlainName name)
    (u v : List Char) : s.chars ++ u ≠ ')' :: v := by
  obtain ⟨name, children⟩ := s
  have hname : IsPlainName name := hs name List.mem_cons_self
  rw [chars]
  intro h
  cases hlist : name.toList with
  | nil =>
    rw [hlist] at h
    exact absurd (List.cons.inj h).1 (by decide)
  | cons c rest =>
    rw [hlist] at h
    obtain ⟨rfl, -⟩ := List.cons.inj h
    exact (hname ')' (hlist ▸ List.mem_cons_self)).2.1 rfl

mutual

/-- **No text of a shape goes on in another.**  Two texts of shapes in front of one text are of the
same shape. -/
theorem chars_append_inj : ∀ {s t : Shape} {u v : List Char},
    (∀ name ∈ s.names, IsPlainName name) → (∀ name ∈ t.names, IsPlainName name) →
      s.chars ++ u = t.chars ++ v → s = t ∧ u = v
  | node m ss, node n ts, u, v, hs, ht, h => by
    rw [names, List.forall_mem_cons] at hs ht
    rw [chars, chars, List.append_assoc, List.append_assoc] at h
    obtain ⟨rfl, hrest⟩ := name_append_inj hs.1 ht.1 h
    obtain ⟨rfl, rfl⟩ := charsFirst_append_inj hs.2 ht.2 hrest
    exact ⟨rfl, rfl⟩

/-- A list that is not begun yet is told from its characters: it ends at once or has a first
shape. -/
theorem charsFirst_append_inj : ∀ {ss ts : List Shape} {u v : List Char},
    (∀ name ∈ namesAll ss, IsPlainName name) → (∀ name ∈ namesAll ts, IsPlainName name) →
      charsFirst ss ++ u = charsFirst ts ++ v → ss = ts ∧ u = v
  | [], [], _, _, _, _, h => ⟨rfl, (List.cons.inj h).2⟩
  | [], t :: ts, u, v, _, ht, h => by
    rw [namesAll, List.forall_mem_append] at ht
    rw [charsFirst, charsFirst, List.append_assoc] at h
    exact absurd h.symm (chars_append_ne ht.1 _ _)
  | s :: ss, [], u, v, hs, _, h => by
    rw [namesAll, List.forall_mem_append] at hs
    rw [charsFirst, charsFirst, List.append_assoc] at h
    exact absurd h (chars_append_ne hs.1 _ _)
  | s :: ss, t :: ts, u, v, hs, ht, h => by
    rw [namesAll, List.forall_mem_append] at hs ht
    rw [charsFirst, charsFirst, List.append_assoc, List.append_assoc] at h
    obtain ⟨rfl, hrest⟩ := chars_append_inj hs.1 ht.1 h
    obtain ⟨rfl, rfl⟩ := charsNext_append_inj hs.2 ht.2 hrest
    exact ⟨rfl, rfl⟩

/-- A list that is begun ends or goes on with a comma, and which of them the next character
tells. -/
theorem charsNext_append_inj : ∀ {ss ts : List Shape} {u v : List Char},
    (∀ name ∈ namesAll ss, IsPlainName name) → (∀ name ∈ namesAll ts, IsPlainName name) →
      charsNext ss ++ u = charsNext ts ++ v → ss = ts ∧ u = v
  | [], [], _, _, _, _, h => ⟨rfl, (List.cons.inj h).2⟩
  | [], _ :: _, _, _, _, _, h => absurd (List.cons.inj h).1 (by decide)
  | _ :: _, [], _, _, _, _, h => absurd (List.cons.inj h).1 (by decide)
  | s :: ss, t :: ts, u, v, hs, ht, h => by
    rw [namesAll, List.forall_mem_append] at hs ht
    rw [charsNext, charsNext, List.cons_append, List.cons_append, List.append_assoc,
      List.append_assoc] at h
    obtain ⟨rfl, hrest⟩ := chars_append_inj hs.1 ht.1 (List.cons.inj h).2
    obtain ⟨rfl, rfl⟩ := charsNext_append_inj hs.2 ht.2 hrest
    exact ⟨rfl, rfl⟩

end

end Shape

namespace Node

/-! ## The shape of a node -/

mutual

/-- The names of the templates in a node. -/
def names : Node → List String
  | raw _ => []
  | template name args _ => name :: namesAll args

/-- The names of the templates in nodes. -/
def namesAll : List Node → List String
  | [] => []
  | a :: as => names a ++ namesAll as

end

mutual

/-- What is left of a node once every leaf is deleted and every flag forgotten. -/
def shape? : Node → Option Shape
  | raw _ => none
  | template name args _ => some (.node name (shapes args))

/-- What is left of nodes. -/
def shapes : List Node → List Shape
  | [] => []
  | a :: as => (shape? a).toList ++ shapes as

end

mutual

theorem names_shape? : ∀ {n : Node} {s : Shape}, n.shape? = some s → s.names = n.names
  | template name args _, s, h => by
    obtain rfl := Option.some.inj h
    rw [Shape.names, names, namesAll_shapes args]

/-- A leaf has no shape and no name, so leaving leaves out loses no names. -/
theorem namesAll_shapes : ∀ as : List Node, Shape.namesAll (shapes as) = namesAll as
  | [] => rfl
  | raw _ :: as => namesAll_shapes as
  | template name args curried :: as => by
    rw [namesAll, ← names_shape? (n := template name args curried) rfl, ← namesAll_shapes as]
    rfl

end

theorem path_template_ne (name : String) (args : List Node) (curried : Bool) :
    (template name args curried).path ≠ "" := by
  intro h
  rw [path, ← String.toList_eq_nil_iff, String.toList_append, String.toList_append,
    String.toList_append] at h
  simp at h

/-- **The path of a node is empty exactly if the node is a leaf.** -/
theorem path_eq_empty_iff {n : Node} : n.path = "" ↔ ∃ hex, n = raw hex := by
  cases n with
  | raw hex => exact ⟨fun _ => ⟨hex, rfl⟩, fun _ => rfl⟩
  | template name args curried =>
    refine ⟨fun h => absurd h (path_template_ne name args curried), ?_⟩
    rintro ⟨hex, h⟩
    exact Node.noConfusion h

mutual

/-- **The path of a node is the text of its shape.** -/
theorem toList_path : ∀ n : Node, n.path.toList = (n.shape?.map Shape.chars).getD []
  | raw _ => rfl
  | template name args _ => by
    rw [path, shape?, Option.map_some, Option.getD_some, Shape.chars, Shape.charsFirst_eq,
      ← map_toList_paths args, String.toList_append, String.toList_append, String.toList_append,
      String.toList_intercalate, List.append_assoc, List.append_assoc]
    rfl

/-- The paths of arguments are the characters of their shapes, leaves left out of both. -/
theorem map_toList_paths : ∀ as : List Node,
    (paths as).map String.toList = (shapes as).map Shape.chars
  | [] => rfl
  | raw hex :: as => map_toList_paths as
  | template name args curried :: as => by
    have hpath : ¬ ((template name args curried).path == "") = true := by
      rw [beq_iff_eq]
      exact path_template_ne name args curried
    rw [paths, if_neg hpath, List.map_cons, toList_path, map_toList_paths as]
    rfl

end

/-- **Nodes with one path have one shape**, if their names are plain. -/
theorem shape?_eq_of_path {a b : Node} (ha : ∀ name ∈ a.names, IsPlainName name)
    (hb : ∀ name ∈ b.names, IsPlainName name) (h : a.path = b.path) : a.shape? = b.shape? := by
  cases a with
  | raw hex =>
    obtain ⟨hex', rfl⟩ := path_eq_empty_iff.1 h.symm
    rfl
  | template m as c =>
    cases b with
    | raw hex => exact absurd h (path_template_ne m as c)
    | template n bs d =>
      have htext := congrArg String.toList h
      rw [toList_path, toList_path] at htext
      rw [← names_shape? (n := template m as c) rfl] at ha
      rw [← names_shape? (n := template n bs d) rfl] at hb
      obtain ⟨hshape, -⟩ := Shape.chars_append_inj ha hb (congrArg (· ++ []) htext)
      exact congrArg some hshape

/-- **Two nodes have one path exactly if they have one shape**, as long as no name has a bracket or
a comma; the path is empty exactly of a leaf.  The names that have a meaning here are plain. -/
theorem path_identifies_shape :
    (∀ {a b : Node}, (∀ name ∈ a.names, IsPlainName name) →
      (∀ name ∈ b.names, IsPlainName name) → (a.path = b.path ↔ a.shape? = b.shape?)) ∧
    (∀ n : Node, n.path = "" ↔ ∃ hex, n = raw hex) ∧
    ∀ name ∈ [Template.catV1, Template.catV2, Template.singletonTopLayer, Template.nftStateLayer,
      Template.nftOwnershipLayer, Template.nftTransferProgram, Template.didInnerPuzzle,
      Template.genesisByCoinId, Template.generator], IsPlainName name := by
  refine ⟨fun {a b} ha hb => ⟨shape?_eq_of_path ha hb, fun h => ?_⟩, fun n => path_eq_empty_iff,
    by decide⟩
  rw [← String.toList_inj, toList_path, toList_path, h]

/-- Leaves on either side of a layer are not seen, the layer is. -/
theorem path_identifies_shape_layers :
    (∀ name ∈ (template "cat_v2" [raw "0x01", template "layer" [] true, raw "0x"] true).names,
      IsPlainName name) ∧
    (∀ name ∈ (template "cat_v2" [template "layer" [raw "0x02"] true] true).names,
      IsPlainName name) ∧
    (∀ name ∈ (template "cat_v2" [] true).names, IsPlainName name) ∧
    (template "cat_v2" [raw "0x01", template "layer" [] true, raw "0x"] true).path =
      (template "cat_v2" [template "layer" [raw "0x02"] true] true).path ∧
    (template "cat_v2" [template "layer" [raw "0x02"] true] true).path ≠
      (template "cat_v2" [] true).path := by
  have hleaves : ∀ name ∈ (template "cat_v2" [raw "0x01", template "layer" [] true, raw "0x"]
      true).names, IsPlainName name := by decide
  have hlayer : ∀ name ∈ (template "cat_v2" [template "layer" [raw "0x02"] true] true).names,
      IsPlainName name := by decide
  have hbare : ∀ name ∈ (template "cat_v2" [] true).names, IsPlainName name := by decide
  refine ⟨hleaves, hlayer, hbare, (path_identifies_shape.1 hleaves hlayer).2 rfl, fun h => ?_⟩
  have hshape := (path_identifies_shape.1 hlayer hbare).1 h
  exact List.cons_ne_nil _ _ (Shape.node.inj (Option.some.inj hshape)).2

/-- A name with brackets and a comma may read as two. -/
example :
    (template "p" [template "a(),b" [] true] true).path =
      (template "p" [template "a" [] true, template "b" [] true] true).path := by decide

end Node

end CoinPuzzles
