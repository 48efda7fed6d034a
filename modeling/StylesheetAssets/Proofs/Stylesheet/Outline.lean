import StylesheetAssets.Stylesheet.Values

/-!
Trees cut in two: the outline, which has every declaration without its value, and the values in
the order of the walk.
-/
namespace StylesheetAssets.Stylesheet

mutual

/-- The node with every value below it emptied. -/
def Node.outline : Node → Node
  | .declaration property _ => .declaration property ""
  | .rule selector nodes => .rule selector (outlineOfAll nodes)
  | .atBlock name params nodes => .atBlock name params (outlineOfAll nodes)
  | node => node

def outlineOfAll : List Node → List Node
  | [] => []
  | node :: rest => node.outline :: outlineOfAll rest

end

mutual

theorem Node.length_values_of_outline_eq {node node' : Node} (h : node'.outline = node.outline) :
    node'.values.length = node.values.length := by
  cases node <;> cases node' <;> simp only [Node.outline, Node.rule.injEq, Node.atBlock.injEq,
    reduceCtorEq] at h
  case rule.rule nodes _ nodes' => exact length_valuesOfAll_of_outline_eq h.2
  case atBlock.atBlock nodes _ _ nodes' => exact length_valuesOfAll_of_outline_eq h.2.2
  all_goals rfl

theorem length_valuesOfAll_of_outline_eq {nodes nodes' : List Node}
    (h : outlineOfAll nodes' = outlineOfAll nodes) :
    (valuesOfAll nodes').length = (valuesOfAll nodes).length := by
  cases nodes with
  | nil =>
    cases nodes' with
    | nil => rfl
    | cons node' rest' => simp [outlineOfAll] at h
  | cons node rest =>
    cases nodes' with
    | nil => simp [outlineOfAll] at h
    | cons node' rest' =>
      simp only [outlineOfAll, List.cons.injEq] at h
      simp only [valuesOfAll, List.length_append, Node.length_values_of_outline_eq h.1,
        length_valuesOfAll_of_outline_eq h.2]

end

mutual

/-- A node is told by its outline and its values. -/
theorem Node.eq_of_outline_eq {node node' : Node} (h : node'.outline = node.outline)
    (hvalues : node'.values = node.values) : node' = node := by
  cases node <;> cases node' <;> simp only [Node.outline, Node.rule.injEq, Node.atBlock.injEq,
    Node.declaration.injEq, Node.values, List.cons.injEq, reduceCtorEq] at h hvalues
  case rule.rule nodes _ nodes' => rw [h.1, eq_of_outlineOfAll_eq h.2 hvalues]
  case atBlock.atBlock nodes _ _ nodes' => rw [h.1, h.2.1, eq_of_outlineOfAll_eq h.2.2 hvalues]
  case declaration.declaration => rw [h.1, hvalues.1]
  all_goals exact h

theorem eq_of_outlineOfAll_eq {nodes nodes' : List Node}
    (h : outlineOfAll nodes' = outlineOfAll nodes)
    (hvalues : valuesOfAll nodes' = valuesOfAll nodes) : nodes' = nodes := by
  cases nodes with
  | nil =>
    cases nodes' with
    | nil => rfl
    | cons node' rest' => simp [outlineOfAll] at h
  | cons node rest =>
    cases nodes' with
    | nil => simp [outlineOfAll] at h
    | cons node' rest' =>
      simp only [outlineOfAll, List.cons.injEq] at h
      obtain ⟨hhead, htail⟩ := List.append_inj hvalues (Node.length_values_of_outline_eq h.1)
      rw [Node.eq_of_outline_eq h.1 hhead, eq_of_outlineOfAll_eq h.2 htail]

end

/-- The values between the braces of a top node. -/
def Node.inner (node : Node) : List String := valuesOfAll (node.children?.getD [])

/-- What a walk over the values between the braces cannot change. -/
def Node.frame (node : Node) : Node := if node.children?.isSome then node.outline else node

theorem Node.values_of_isRule {node : Node} (h : node.isRule = true) :
    node.values = node.inner := by
  cases node <;> simp_all [Node.isRule, Node.values, Node.inner, Node.children?, valuesOfAll]

theorem Node.isRule_outline (node : Node) : node.outline.isRule = node.isRule := by
  cases node <;> rfl

theorem Node.frame_eq_of_outline_eq {node node' : Node} (h : node.isRule = true)
    (ho : node'.outline = node.outline) : node'.frame = node.frame := by
  cases node <;> cases node' <;> simp_all [Node.isRule, Node.frame, Node.outline, Node.children?]

theorem Node.inner_of_frame_eq {node node' : Node} (h : node'.frame = node.frame)
    (hc : node.children? = none) : node'.inner = [] := by
  cases node <;> cases node' <;>
    simp_all [Node.frame, Node.outline, Node.children?, Node.inner, valuesOfAll]

end StylesheetAssets.Stylesheet
