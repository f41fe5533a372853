import CoinPuzzles.Puzzle.KeyParam

/-!
# Proofs/Puzzle/Interchange — a node and its document

A document leaves out that a template counts as curried where its arguments show it, and comparing
nodes leaves it out everywhere.  What matters to the program of a node is whether a template is
bound: counts as curried or has arguments.  Reading a document back gives the node with every flag
set to that (`ofDocument_toDocument`), and setting it changes neither the positions that are bound
nor the program.  Main statement: `document_round_trip`.
-/

namespace CoinPuzzles.Node

/-- Whether a node is a template that binds arguments, be they none. -/
def isBound : Node → Bool
  | raw _ => false
  | template _ args curried => curried || !args.isEmpty

/-- The node at a position, given by the places of the arguments on the way to it. -/
def at? : List Nat → Node → Option Node
  | [], n => some n
  | i :: position, n => (n.arg? i).bind (at? position)

mutual

/-- The node with a flag at every template that is bound. -/
def settle : Node → Node
  | raw hex => raw hex
  | template name args curried => template name (settleAll args) (curried || !args.isEmpty)

/-- The nodes with a flag at every template that is bound. -/
def settleAll : List Node → List Node
  | [] => []
  | a :: as => settle a :: settleAll as

end

theorem settleAll_eq_map : ∀ as : List Node, settleAll as = as.map settle
  | [] => rfl
  | a :: as => congrArg (settle a :: ·) (settleAll_eq_map as)

theorem isEmpty_settleAll (as : List Node) : (settleAll as).isEmpty = as.isEmpty := by
  rw [settleAll_eq_map, List.isEmpty_map]

/-! ## Reading a document back -/

theorem isEmpty_toDocuments : ∀ as : List Node, (toDocuments as).isEmpty = as.isEmpty
  | [] => rfl
  | _ :: _ => rfl

/-- A document of a template is read field by field. -/
theorem ofDocument_template (name : String) (items : List Value) (more : Bool) :
    ofDocument (.object ([("mod", .text name), ("args", .list items)] ++
        if more then [("curried", .bool true)] else [])) =
      (do return template name (← ofDocuments items) (!items.isEmpty || more)) := by
  cases more <;> rfl

mutual

/-- **Reading the document of a node gives the node with its flags settled.** -/
theorem ofDocument_toDocument : ∀ n : Node, ofDocument n.toDocument = .ok n.settle
  | raw _ => rfl
  | template name args curried => by
    rw [toDocument, ofDocument_template, ofDocuments_toDocuments args, isEmpty_toDocuments, settle]
    refine congrArg (fun flag => Except.ok (template name (settleAll args) flag)) ?_
    cases curried <;> cases args.isEmpty <;> rfl

theorem ofDocuments_toDocuments : ∀ as : List Node,
    ofDocuments (toDocuments as) = .ok (settleAll as)
  | [] => rfl
  | a :: as => by
    rw [toDocuments, ofDocuments, ofDocument_toDocument a, ofDocuments_toDocuments as, settleAll]
    rfl

end

/-! ## What settling the flags keeps -/

mutual

/-- **A node compares equal to what it settles to**, as comparing leaves the flags out. -/
theorem same_settle : ∀ n : Node, n.settle.same n = true
  | raw hex => by rw [settle, same, beq_self_eq_true]
  | template name args curried => by
    rw [settle, same, beq_self_eq_true, sameAll_settleAll args, Bool.and_true]

theorem sameAll_settleAll : ∀ as : List Node, sameAll (settleAll as) as = true
  | [] => rfl
  | a :: as => by rw [settleAll, sameAll, same_settle a, sameAll_settleAll as, Bool.and_true]

end

/-- Settling keeps what is bound: the flag becomes what it came to. -/
theorem isBound_settle (n : Node) : n.settle.isBound = n.isBound := by
  cases n with
  | raw hex => rfl
  | template name args curried =>
    rw [settle, isBound, isBound, isEmpty_settleAll, Bool.or_assoc, Bool.or_self]

theorem arg?_settle (i : Nat) (n : Node) : n.settle.arg? i = (n.arg? i).map settle := by
  cases n with
  | raw hex => rfl
  | template name args curried => rw [settle, arg?, arg?, settleAll_eq_map, List.getElem?_map]

/-- What is found at a position of the settled node is what was there, settled. -/
theorem at?_settle : ∀ (position : List Nat) (n : Node),
    n.settle.at? position = (n.at? position).map settle
  | [], _ => rfl
  | i :: position, n => by
    rw [at?, at?, arg?_settle]
    cases n.arg? i with
    | none => rfl
    | some a => exact at?_settle position a

mutual

/-- **Settling the flags changes no program**, nor why there is none. -/
theorem rebuild_settle (r : Registry) : ∀ n : Node, n.settle.rebuild r = n.rebuild r
  | raw _ => rfl
  | template name args curried => by
    have hflag : ((settleAll args).isEmpty && !(curried || !args.isEmpty)) =
        (args.isEmpty && !curried) := by
      rw [isEmpty_settleAll]
      cases curried <;> cases args.isEmpty <;> rfl
    rw [settle, rebuild, rebuild, rebuildAll_settleAll r args, hflag]

theorem rebuildAll_settleAll (r : Registry) : ∀ as : List Node,
    rebuildAll r (settleAll as) = rebuildAll r as
  | [] => rfl
  | a :: as => by
    rw [settleAll, rebuildAll, rebuildAll, rebuild_settle r a, rebuildAll_settleAll r as]

end

/-- **A node comes back from its document.**  The two are the same node, they are bound at the same
positions, and under every registry they stand for the same program or are refused alike. -/
theorem document_round_trip (n : Node) :
    ∃ m, ofDocument n.toDocument = .ok m ∧ m.same n = true ∧
      (∀ position, (m.at? position).map isBound = (n.at? position).map isBound) ∧
      ∀ r, m.rebuild r = n.rebuild r := by
  refine ⟨n.settle, ofDocument_toDocument n, same_settle n, fun position => ?_,
    fun r => rebuild_settle r n⟩
  rw [at?_settle, Option.map_map]
  exact Option.map_congr fun m _ => isBound_settle m

/-- A bare template, one with no arguments bound and one whose argument shows that it is bound. -/
example :
    ofDocument (template "a" [template "b" [] false, template "b" [] true] false).toDocument =
      .ok (template "a" [template "b" [] false, template "b" [] true] true) := rfl

end CoinPuzzles.Node
