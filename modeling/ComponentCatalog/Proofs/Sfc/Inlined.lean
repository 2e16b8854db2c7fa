import ComponentCatalog.Proofs.Sfc.Stands

/-! # Types in place of their names

A macro may be told what to declare by the name of a type or by its members. It makes no difference which, as
long as the name is declared where it is looked for: anywhere but in the declaration of another type. What is
shown of the source is the source all the same, so a text that holds the call shows which it was.
-/

namespace ComponentCatalog.Sfc

open Script

variable {script members : List Node} {decl node : Node} {name : String}

/-! ## Where types are declared -/

/-- A node that is in no declaration of a type. -/
inductive Outside (script : List Node) : Node → Prop
  | item {node : Node} (listed : node ∈ script) : Outside script node
  | part {node inner : Node} (outer : Outside script node) (open_ : namesType node = false)
      (listed : inner ∈ node.parts) : Outside script inner

/-- A part of a node that is visited is visited too, where the node is open. -/
theorem mem_preorder_of_part {open_ : Node → Bool} {root inner : Node} (visited : node ∈ root.preorder open_)
    (opened : open_ node = true) (listed : inner ∈ node.parts) : inner ∈ root.preorder open_ := by
  induction root using node_induction with
  | step root ih =>
    rw [preorder_eq] at visited ⊢
    rcases List.mem_cons.mp visited with rfl | below
    · refine List.mem_cons_of_mem _ ?_
      rw [if_pos opened]
      exact List.mem_flatMap.mpr ⟨inner, listed, by rw [preorder_eq]; exact List.mem_cons_self⟩
    · split at below
      · rename_i rootOpen
        obtain ⟨part, inRoot, deeper⟩ := List.mem_flatMap.mp below
        refine List.mem_cons_of_mem _ ?_
        rw [if_pos rootOpen]
        exact List.mem_flatMap.mpr ⟨part, inRoot, ih part inRoot deeper⟩
      · simp at below

/-- Types are looked for at all places outside of declarations of types, however deep. -/
theorem Outside.mem (outside : Outside script node) : node ∈ script.flatMap (Node.preorder (!namesType ·)) := by
  induction outside with
  | item listed => exact List.mem_flatMap.mpr ⟨_, listed, by rw [preorder_eq]; exact List.mem_cons_self⟩
  | part outer open_ listed ih =>
    obtain ⟨root, top, visited⟩ := List.mem_flatMap.mp ih
    exact List.mem_flatMap.mpr ⟨root, top, mem_preorder_of_part visited (by rw [open_]; rfl) listed⟩

/-- A name that is declared once stands for the members that are declared under it. -/
theorem lookup_namedTypes (declares : namedType? decl = some (name, members)) (outside : Outside script decl)
    (once : ∀ other ∈ nodesOf script, ∀ found, namedType? other = some (name, found) → found = members) :
    (namedTypes script).lookup name = some members := by
  have listed : (name, members) ∈ namedTypes script :=
    List.mem_reverse.mpr (List.mem_filterMap.mpr ⟨decl, outside.mem, declares⟩)
  cases found : (namedTypes script).lookup name with
  | none =>
    have missing := List.lookup_eq_none_iff.mp found _ listed
    simp at missing
  | some other =>
    obtain ⟨before, after, whole, -⟩ := List.lookup_eq_some_iff.mp found
    have entry : (name, other) ∈ namedTypes script := by simp [whole]
    obtain ⟨node, visited, declared⟩ := List.mem_filterMap.mp (List.mem_reverse.mp entry)
    obtain ⟨root, top, inner⟩ := List.mem_flatMap.mp visited
    rw [once node (List.mem_flatMap.mpr ⟨root, top, mem_preorder_all inner⟩) other declared]

/-! ## Interfaces -/

/-- Does a span reach over another one? -/
def reachesOver (span inner : Span) : Bool := span.lo ≤ inner.lo && inner.hi ≤ span.hi

/-- What is shown of the spans of a script when some calls have been replaced: of those that reach over such a
call what is there then, and of all others what was there before. -/
def shownAfter (before after : Span → String) (replaced : List Span) (span : Span) : String :=
  if replaced.any (reachesOver span) then after span else before span

/-- In a script with the name of a type that is declared once, outside of other declarations of types, with
members without calls and declarations of types: when some calls of macros with this name have the members in its
place, the interface is the same but for what is shown of texts that hold such a call. -/
theorem interfaceOf_inlined {forceTyped : Bool} {source source' : List Char} {block block' : ScriptBlock}
    {script script' : List Node} {after : Span → String} {replaced : List Span}
    (chosen : script? source = some block) (parsed : parse (forceTyped || block.isTyped) block.content = .ok script)
    (chosen' : script? source' = some block')
    (parsed' : parse (forceTyped || block'.isTyped) block'.content = .ok script')
    (template : template? source' = template? source)
    (declares : namedType? decl = some (name, members)) (outside : Outside script decl)
    (once : ∀ other ∈ nodesOf script, ∀ found, namedType? other = some (name, found) → found = members)
    (silent : ∀ inner ∈ nodesOf members, isSilent inner = true)
    (inlined : List.Forall₂ (Stands (shownAfter (shownAt block.content) after replaced) (shownAt block'.content)
      fun span named given => span ∈ replaced ∧ named = name ∧ given = members) script script') :
    interfaceOf forceTyped source = .ok (interfaceWith (shownAt block.content) (template? source) script) ∧
      interfaceOf forceTyped source' =
        .ok (interfaceWith (shownAfter (shownAt block.content) after replaced) (template? source) script) := by
  refine ⟨interfaceOf_eq chosen parsed, ?_⟩
  have same := declaredWith_eq_of_stands (fun span named given allowed => by rw [allowed.2.2]; exact silent)
    (fun span named given allowed => by
      rw [allowed.2.1, allowed.2.2]
      exact lookup_namedTypes declares outside once) inlined
  rw [interfaceOf_eq chosen' parsed', template, interfaceWith, interfaceWith, same]

/-! ## An example of each -/

/-- A property of an object type, written from a place on. -/
def stringMember (lo : Nat) : Node :=
  .property ⟨lo, lo + 9⟩ (.name ⟨lo, lo + 1⟩ "a") false [.other .plainType ⟨lo + 3, lo + 9⟩ []]

/-- A script with a named type, -/
def namedBlock : ScriptBlock := typedBlock "interface T \x7b a: string \x7d\ndefineProps<T>()"

/-- the same script with the members of the type, -/
def literalBlock : ScriptBlock := typedBlock "interface T \x7b a: string \x7d\ndefineProps<\x7b a: string \x7d>()"

/-- and what they are read as. -/
def namedScript : List Node :=
  [.interfaceDecl ⟨0, 25⟩ "T" [stringMember 14] [],
    .other .statement ⟨26, 42⟩ [.call ⟨26, 42⟩ (.name ⟨26, 37⟩ "defineProps") []
      [.typeRef ⟨38, 39⟩ (.name ⟨38, 39⟩ "T") []]]]

def literalScript : List Node :=
  [.interfaceDecl ⟨0, 25⟩ "T" [stringMember 14] [],
    .other .statement ⟨26, 54⟩ [.call ⟨26, 54⟩ (.name ⟨26, 37⟩ "defineProps") []
      [.typeLiteral ⟨38, 51⟩ [stringMember 40]]]]

/-- The spans in scripts of these forms, as they are written. -/
def namedSpans? : List Node → Option (List Span)
  | [.interfaceDecl s₁ "T" [.property s₂ (.name s₃ "a") false [.other .plainType s₄ []]] [],
      .other .statement s₅ [.call s₆ (.name s₇ "defineProps") [] [.typeRef s₈ (.name s₉ "T") []]]] =>
    some [s₁, s₂, s₃, s₄, s₅, s₆, s₇, s₈, s₉]
  | _ => none

def literalSpans? : List Node → Option (List Span)
  | [.interfaceDecl s₁ "T" [.property s₂ (.name s₃ "a") false [.other .plainType s₄ []]] [],
      .other .statement s₅ [.call s₆ (.name s₇ "defineProps") []
        [.typeLiteral s₈ [.property s₉ (.name s₁₀ "a") false [.other .plainType s₁₁ []]]]]] =>
    some [s₁, s₂, s₃, s₄, s₅, s₆, s₇, s₈, s₉, s₁₀, s₁₁]
  | _ => none

theorem parse_namedBlock : parse true namedBlock.content = .ok namedScript := by
  have read : (parse true namedBlock.content).toOption.any (namedSpans? · = some
      [⟨0, 25⟩, ⟨14, 23⟩, ⟨14, 15⟩, ⟨17, 23⟩, ⟨26, 42⟩, ⟨26, 42⟩, ⟨26, 37⟩, ⟨38, 39⟩, ⟨38, 39⟩]) = true := by
    decide +kernel
  obtain ⟨script, parsed, spans⟩ := exists_ok_of_any read
  rw [decide_eq_true_iff] at spans
  unfold namedSpans? at spans
  split at spans
  · simp only [Option.some.injEq, List.cons.injEq, and_true] at spans
    obtain ⟨rfl, rfl, rfl, rfl, rfl, rfl, rfl, rfl, rfl⟩ := spans
    exact parsed
  · cases spans

theorem parse_literalBlock : parse true literalBlock.content = .ok literalScript := by
  have read : (parse true literalBlock.content).toOption.any (literalSpans? · = some
      [⟨0, 25⟩, ⟨14, 23⟩, ⟨14, 15⟩, ⟨17, 23⟩, ⟨26, 54⟩, ⟨26, 54⟩, ⟨26, 37⟩, ⟨38, 51⟩, ⟨40, 49⟩, ⟨40, 41⟩,
        ⟨43, 49⟩]) = true := by
    decide +kernel
  obtain ⟨script, parsed, spans⟩ := exists_ok_of_any read
  rw [decide_eq_true_iff] at spans
  unfold literalSpans? at spans
  split at spans
  · simp only [Option.some.injEq, List.cons.injEq, and_true] at spans
    obtain ⟨rfl, rfl, rfl, rfl, rfl, rfl, rfl, rfl, rfl, rfl, rfl⟩ := spans
    exact parsed
  · cases spans

/-- What is shown of the first script when its call is as in the second one. -/
def namedShown : Span → String :=
  shownAfter (shownAt namedBlock.content) (fun _ => "defineProps<\x7b a: string \x7d>()") [⟨26, 42⟩]

theorem stands_literalScript :
    List.Forall₂ (Stands namedShown (shownAt literalBlock.content)
      fun span named given => span ∈ [⟨26, 42⟩] ∧ named = "T" ∧ given = [stringMember 14])
      namedScript literalScript := by
  have same : List.Forall₂ (fun span span' => namedShown span = shownAt literalBlock.content span')
      [⟨0, 25⟩, ⟨14, 23⟩, ⟨14, 15⟩, ⟨17, 23⟩, ⟨26, 42⟩, ⟨26, 37⟩, ⟨14, 23⟩, ⟨14, 15⟩, ⟨17, 23⟩]
      [⟨0, 25⟩, ⟨14, 23⟩, ⟨14, 15⟩, ⟨17, 23⟩, ⟨26, 54⟩, ⟨26, 37⟩, ⟨40, 49⟩, ⟨40, 41⟩, ⟨43, 49⟩] := by
    decide +kernel
  simp only [List.forall₂_cons] at same
  obtain ⟨decl, member, key, type, call, callee, member', key', type', -⟩ := same
  refine .cons (.interfaceDecl decl (.cons ?declared .nil) .nil) (.cons (.other call (.cons ?call .nil)) .nil)
  case declared => exact .property member (.name key) (.cons (.other type .nil) .nil)
  case call =>
    have allowed : (⟨26, 42⟩ : Span) ∈ [(⟨26, 42⟩ : Span)] ∧ "T" = "T" ∧ [stringMember 14] = [stringMember 14] :=
      ⟨List.mem_singleton_self _, rfl, rfl⟩
    refine .inlined call callee (by decide) allowed .nil (.cons ?_ .nil)
    exact .property member' (.name key') (.cons (.other type' .nil) .nil)

theorem interfaceOf_inlined_literal :
    interfaceOf true (fileWith namedBlock) =
        .ok (interfaceWith (shownAt namedBlock.content) (template? (fileWith namedBlock)) namedScript) ∧
      interfaceOf true (fileWith literalBlock) =
        .ok (interfaceWith namedShown (template? (fileWith namedBlock)) namedScript) := by
  have declares : namedType? (.interfaceDecl ⟨0, 25⟩ "T" [stringMember 14] []) = some ("T", [stringMember 14]) := rfl
  refine interfaceOf_inlined (by decide +kernel) parse_namedBlock (by decide +kernel) parse_literalBlock
    (by decide +kernel) declares (.item List.mem_cons_self) ?_ ?_ stands_literalScript
  · simp [nodesOf, namedScript, stringMember, preorder_eq, Node.parts, namedType?]
  · simp [nodesOf, stringMember, preorder_eq, Node.parts, isSilent]

/-- A script in which a default value holds the call of a macro with a name, -/
def heldBlock : ScriptBlock := typedBlock
  "interface E \x7b x: [] \x7d\nwithDefaults(defineProps<\x7b f?: 1 \x7d>(), \x7b f: defineEmits<E>() \x7d)"

/-- and the same script with the members in place of the name. -/
def heldLiteralBlock : ScriptBlock := typedBlock
  ("interface E \x7b x: [] \x7d\n" ++
    "withDefaults(defineProps<\x7b f?: 1 \x7d>(), \x7b f: defineEmits<\x7b x: [] \x7d>() \x7d)")

/-- A script in which the type is declared in the key of a member of another one, -/
def nestedBlock : ScriptBlock := typedBlock
  "interface O \x7b [function () \x7b interface T \x7b a: 1 \x7d \x7d]: 1 \x7d\ndefineProps<T>()"

def nestedLiteralBlock : ScriptBlock := typedBlock
  "interface O \x7b [function () \x7b interface T \x7b a: 1 \x7d \x7d]: 1 \x7d\ndefineProps<\x7b a: 1 \x7d>()"

/-- and one in which the key of one of its own members declares the type of another macro. -/
def declaringBlock : ScriptBlock := typedBlock
  ("interface T \x7b [function () \x7b interface U \x7b b: 1 \x7d \x7d]: 1 \x7d\n" ++
    "defineProps<T>(); defineEmits<U>()")

def declaringLiteralBlock : ScriptBlock := typedBlock
  ("interface T \x7b [function () \x7b interface U \x7b b: 1 \x7d \x7d]: 1 \x7d\n" ++
    "defineProps<\x7b [function () \x7b interface U \x7b b: 1 \x7d \x7d]: 1 \x7d>(); defineEmits<U>()")

/-- The text of the default value is another one then; and a declaration within a declaration is not found, so
its members are seen only where they stand in the call. -/
theorem interfaceOf_held_ne :
    ((interfaceOf true (fileWith heldBlock)).toOption.map (·.props) =
        some [⟨"f", "1", false, some "defineEmits<E>()"⟩] ∧
      (interfaceOf true (fileWith heldLiteralBlock)).toOption.map (·.props) =
        some [⟨"f", "1", false, some "defineEmits<\x7b x: [] \x7d>()"⟩]) ∧
    ((interfaceOf true (fileWith nestedBlock)).toOption.map (·.props) = some [] ∧
      (interfaceOf true (fileWith nestedLiteralBlock)).toOption.map (·.props) = some [⟨"a", "1", true, none⟩]) ∧
    ((interfaceOf true (fileWith declaringBlock)).toOption.map (·.events) = some [] ∧
      (interfaceOf true (fileWith declaringLiteralBlock)).toOption.map (·.events) = some [⟨"b", "1"⟩]) := by
  refine ⟨?held, ?nested, ?declaring⟩
  all_goals decide +kernel

end ComponentCatalog.Sfc
