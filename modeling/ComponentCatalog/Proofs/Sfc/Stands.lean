import ComponentCatalog.Proofs.Sfc.Declared
import Mathlib.Data.List.Forall2

/-! # Trees that declare the same

What a script declares is read from the forms of its nodes and from what is shown of their spans. A tree in
which each node is of the same form as in another one, with the same text shown of it, declares the same. The
type argument of a macro may also be given by its members in place of the name of a type with these members.
-/

namespace ComponentCatalog.Sfc

open Script

/-- The functions that a type tells what to declare. -/
def typedMacros : List String := ["defineProps", "defineEmits", "defineSlots"]

section

variable (shown shown' : Span → String) (inlines : Span → String → List Node → Prop)

/-- A node stands for another one: it is of the same form with the same text shown of it, and its parts stand
for the parts of the other one. In a call of a macro the members of a type may stand for its name. -/
inductive Stands : Node → Node → Prop
  | name {s s' : Span} {text : String} (same : shown s = shown' s') : Stands (.name s text) (.name s' text)
  | string {s s' : Span} {value : String} (same : shown s = shown' s') : Stands (.string s value) (.string s' value)
  | number {s s' : Span} (same : shown s = shown' s') : Stands (.number s) (.number s')
  | boolean {s s' : Span} {value : Bool} (same : shown s = shown' s') : Stands (.boolean s value) (.boolean s' value)
  | array {s s' : Span} {elements elements' : List Node} (same : shown s = shown' s')
      (parts : List.Forall₂ Stands elements elements') : Stands (.array s elements) (.array s' elements')
  | object {s s' : Span} {entries entries' : List Node} (same : shown s = shown' s')
      (parts : List.Forall₂ Stands entries entries') : Stands (.object s entries) (.object s' entries')
  | entry {s s' : Span} {key key' value value' : Node} (same : shown s = shown' s') (keys : Stands key key')
      (values : Stands value value') : Stands (.entry s key value) (.entry s' key' value')
  | shorthand {s s' : Span} {key key' : Node} (same : shown s = shown' s') (keys : Stands key key') :
      Stands (.shorthand s key) (.shorthand s' key')
  | method {s s' : Span} {key key' function function' : Node} (same : shown s = shown' s') (keys : Stands key key')
      (functions : Stands function function') : Stands (.method s key function) (.method s' key' function')
  | call {s s' : Span} {callee callee' : Node} {args args' types types' : List Node} (same : shown s = shown' s')
      (callees : Stands callee callee') (arguments : List.Forall₂ Stands args args')
      (parameters : List.Forall₂ Stands types types') :
      Stands (.call s callee args types) (.call s' callee' args' types')
  | cast {s s' : Span} {value value' type type' : Node} (same : shown s = shown' s') (values : Stands value value')
      (types : Stands type type') : Stands (.cast s value type) (.cast s' value' type')
  | typeLiteral {s s' : Span} {members members' : List Node} (same : shown s = shown' s')
      (parts : List.Forall₂ Stands members members') : Stands (.typeLiteral s members) (.typeLiteral s' members')
  | typeRef {s s' : Span} {entity entity' : Node} {types types' : List Node} (same : shown s = shown' s')
      (entities : Stands entity entity') (parameters : List.Forall₂ Stands types types') :
      Stands (.typeRef s entity types) (.typeRef s' entity' types')
  | stringType {s s' : Span} {value : String} (same : shown s = shown' s') :
      Stands (.stringType s value) (.stringType s' value)
  | property {s s' : Span} {key key' : Node} {optional : Bool} {type type' : List Node} (same : shown s = shown' s')
      (keys : Stands key key') (types : List.Forall₂ Stands type type') :
      Stands (.property s key optional type) (.property s' key' optional type')
  | callSignature {s s' : Span} {parameters parameters' rest rest' : List Node} (same : shown s = shown' s')
      (bound : List.Forall₂ Stands parameters parameters') (others : List.Forall₂ Stands rest rest') :
      Stands (.callSignature s parameters rest) (.callSignature s' parameters' rest')
  | methodSignature {s s' : Span} {key key' : Node} {parameters parameters' rest rest' : List Node}
      (same : shown s = shown' s') (keys : Stands key key') (bound : List.Forall₂ Stands parameters parameters')
      (others : List.Forall₂ Stands rest rest') :
      Stands (.methodSignature s key parameters rest) (.methodSignature s' key' parameters' rest')
  | interfaceDecl {s s' : Span} {name : String} {members members' rest rest' : List Node} (same : shown s = shown' s')
      (parts : List.Forall₂ Stands members members') (others : List.Forall₂ Stands rest rest') :
      Stands (.interfaceDecl s name members rest) (.interfaceDecl s' name members' rest')
  | aliasDecl {s s' : Span} {name : String} {type type' : Node} {rest rest' : List Node} (same : shown s = shown' s')
      (types : Stands type type') (others : List.Forall₂ Stands rest rest') :
      Stands (.aliasDecl s name type rest) (.aliasDecl s' name type' rest')
  | binding {s s' : Span} {name : String} {type type' : List Node} (same : shown s = shown' s')
      (types : List.Forall₂ Stands type type') : Stands (.binding s name type) (.binding s' name type')
  | other {s s' : Span} {kind : Kind} {parts parts' : List Node} (same : shown s = shown' s')
      (all : List.Forall₂ Stands parts parts') : Stands (.other kind s parts) (.other kind s' parts')
  | inlined {s s' c c' t t' e : Span} {callee name : String} {args args' members members' : List Node}
      (same : shown s = shown' s') (callees : shown c = shown' c') (macro_ : callee ∈ typedMacros)
      (allowed : inlines s name members) (arguments : List.Forall₂ Stands args args')
      (parts : List.Forall₂ Stands members members') :
      Stands (.call s (.name c callee) args [.typeRef t (.name e name) []])
        (.call s' (.name c' callee) args' [.typeLiteral t' members'])

end

variable {shown shown' : Span → String} {inlines : Span → String → List Node → Prop} {node node' : Node}
variable {nodes nodes' args args' types types' : List Node} {source source' : Source}

theorem map_eq_of_forall₂ {α β γ : Type} {R : α → β → Prop} {f : α → γ} {g : β → γ} {list : List α} {list' : List β}
    (all : List.Forall₂ R list list') (same : ∀ a b, a ∈ list → R a b → f a = g b) : list.map f = list'.map g := by
  induction all with
  | nil => rfl
  | cons first rest ih =>
    rw [List.map_cons, List.map_cons, same _ _ List.mem_cons_self first,
      ih fun a b member => same a b (List.mem_cons_of_mem _ member)]

theorem exists_of_forall₂_of_mem {α β : Type} {R : α → β → Prop} {list : List α} {list' : List β}
    (all : List.Forall₂ R list list') {b : β} (member : b ∈ list') : ∃ a ∈ list, R a b := by
  induction all with
  | nil => simp at member
  | @cons a b' _ _ first rest ih =>
    rcases List.mem_cons.mp member with rfl | later
    · exact ⟨a, List.mem_cons_self, first⟩
    · obtain ⟨a', listed, related⟩ := ih later
      exact ⟨a', List.mem_cons_of_mem _ listed, related⟩

theorem filterMap_eq_of_forall₂ {α β γ : Type} {R : α → β → Prop} {f : α → Option γ} {g : β → Option γ}
    {list : List α} {list' : List β} (same : ∀ a b, R a b → f a = g b) (all : List.Forall₂ R list list') :
    list.filterMap f = list'.filterMap g := by
  induction all with
  | nil => rfl
  | cons first rest ih => rw [List.filterMap_cons, List.filterMap_cons, same _ _ first, ih]

/-! ## Nodes -/

namespace Stands

theorem span (stands : Stands shown shown' inlines node node') : shown node.span = shown' node'.span := by
  cases stands <;> assumption

theorem typeKey? (stands : Stands shown shown' inlines node node') : typeKey? node = typeKey? node' := by
  cases stands <;> rfl

theorem stringText? (stands : Stands shown shown' inlines node node') : stringText? node = stringText? node' := by
  cases stands <;> rfl

theorem isKind (stands : Stands shown shown' inlines node node') (kind : Kind) :
    node.isKind kind = node'.isKind kind := by
  cases stands <;> rfl

theorem exposedType (stands : Stands shown shown' inlines node node') :
    exposedType (some node) = exposedType (some node') := by
  cases stands with
  | @other _ _ kind => cases kind <;> rfl
  | _ => rfl

theorem withoutDots (stands : Stands shown shown' inlines node node') :
    Stands shown shown' inlines (withoutDots node) (withoutDots node') := by
  have kept {node : Node} (other : node.isKind .spread = false) : Sfc.withoutDots node = node := by
    unfold Sfc.withoutDots
    split
    · exact Bool.noConfusion other
    · rfl
  cases spread : node.isKind .spread with
  | false => rwa [kept spread, kept (by rwa [← stands.isKind])]
  | true =>
    have whole := stands
    cases stands with
    | other same all =>
      obtain rfl := eq_of_beq spread
      cases all with
      | nil => exact whole
      | cons first rest =>
        cases rest with
        | nil => exact first
        | cons => exact whole
    | _ => exact Bool.noConfusion spread

theorem undotted (all : List.Forall₂ (Stands shown shown' inlines) args args') :
    List.Forall₂ (Stands shown shown' inlines) (args.map Sfc.withoutDots) (args'.map Sfc.withoutDots) :=
  List.rel_map (fun _ _ stands => withoutDots stands) all

theorem elementsOf (all : List.Forall₂ (Stands shown shown' inlines) nodes nodes') :
    List.Forall₂ (Stands shown shown' inlines) (elementsOf nodes) (elementsOf nodes') := by
  induction all with
  | nil => exact .nil
  | cons first rest ih =>
    unfold Sfc.elementsOf at ih ⊢
    rw [List.filter_cons, List.filter_cons, first.isKind .hole]
    split
    · exact .cons first.withoutDots ih
    · exact ih

/-- An entry and its value, if it has one, as it is read. -/
def EntryStands (shown shown' : Span → String) (inlines : Span → String → List Node → Prop)
    (entry entry' : String × Option Node) : Prop :=
  entry.1 = entry'.1 ∧ Option.Rel (Stands shown shown' inlines) entry.2 entry'.2

theorem entriesOf (all : List.Forall₂ (Stands shown shown' inlines) nodes nodes') :
    List.Forall₂ (EntryStands shown shown' inlines) (entriesOf nodes) (entriesOf nodes') := by
  have keyed {key key' : Node} {value value' : Option Node} (keys : Stands shown shown' inlines key key')
      (values : Option.Rel (Stands shown shown' inlines) value value') :
      Option.Rel (EntryStands shown shown' inlines) ((Sfc.typeKey? key).map (·, value))
        ((Sfc.typeKey? key').map (·, value')) := by
    rw [keys.typeKey?]
    cases Sfc.typeKey? key' with
    | none => exact .none
    | some name => exact .some ⟨rfl, values⟩
  rw [entriesOf_eq, entriesOf_eq]
  refine List.rel_filterMap (fun node node' stands => ?_) all
  cases stands with
  | entry same keys values => exact keyed keys (.some values)
  | shorthand same keys => exact keyed keys .none
  | method same keys functions => exact keyed keys .none
  | _ => exact .none

end Stands

/-- An array of types is read element by element. -/
theorem runtimeTypes_eq (source : Source) (elements : List Node) :
    runtimeType.runtimeTypes source elements = (elementsOf elements).map (runtimeType source) := by
  induction elements with
  | nil => rfl
  | cons element elements ih =>
    cases element with
    | other kind span parts =>
      cases kind with
      | hole => exact ih
      | spread =>
        cases parts with
        | nil => exact congrArg (List.cons _) ih
        | cons inner more => cases more <;> exact congrArg (List.cons _) ih
      | _ => exact congrArg (List.cons _) ih
    | _ => exact congrArg (List.cons _) ih

theorem sizeOf_lt_of_mem_elementsOf {element : Node} (member : element ∈ elementsOf nodes) :
    sizeOf element < 1 + sizeOf nodes := by
  obtain ⟨dotted, listed, rfl⟩ := List.mem_map.mp member
  have within := List.sizeOf_lt_of_mem (List.mem_filter.mp listed).1
  have undotted : sizeOf (withoutDots dotted) ≤ sizeOf dotted := by
    unfold withoutDots
    split
    · simp
      omega
    · exact Nat.le_refl _
  omega

/-! ## What is read from a call -/

/-- Two sources in which the same is shown of nodes that stand for each other. -/
structure Source.Agrees (shown shown' : Span → String) (inlines : Span → String → List Node → Prop)
    (source source' : Source) : Prop where
  snippet : source.snippet = shown
  snippet' : source'.snippet = shown'
  types : ∀ name, List.Forall₂ (Stands shown shown' inlines) ((source.types.lookup name).getD [])
    ((source'.types.lookup name).getD [])
  inlined : ∀ span name members, inlines span name members → (source.types.lookup name).getD [] = members

/-- The members of the first type argument stand for those of the other one. -/
inductive MembersStand (shown shown' : Span → String) (inlines : Span → String → List Node → Prop)
    (source source' : Source) : List Node → List Node → Prop
  | none : MembersStand shown shown' inlines source source' [] []
  | some {type type' : Node} {types types' : List Node}
      (members : List.Forall₂ (Stands shown shown' inlines) (source.membersOf type) (source'.membersOf type')) :
      MembersStand shown shown' inlines source source' (type :: types) (type' :: types')

section

variable (agrees : Source.Agrees shown shown' inlines source source')

include agrees

namespace Stands

theorem typeText (all : List.Forall₂ (Stands shown shown' inlines) nodes nodes') :
    source.typeText nodes = source'.typeText nodes' := by
  cases all with
  | nil => rfl
  | cons first rest =>
    rw [Source.typeText, Source.typeText, agrees.snippet, agrees.snippet']
    exact first.span

theorem membersOf (stands : Stands shown shown' inlines node node') :
    List.Forall₂ (Stands shown shown' inlines) (source.membersOf node) (source'.membersOf node') := by
  cases stands with
  | typeLiteral same parts => exact parts
  | typeRef same entities parameters =>
    cases entities with
    | name same => exact agrees.types _
    | _ => exact .nil
  | _ => exact .nil

theorem membersStand (all : List.Forall₂ (Stands shown shown' inlines) types types') :
    MembersStand shown shown' inlines source source' types types' := by
  cases all with
  | nil => exact .none
  | cons first rest => exact .some (first.membersOf agrees)

theorem snippet (stands : Stands shown shown' inlines node node') :
    source.snippet node.span = source'.snippet node'.span := by
  rw [agrees.snippet, agrees.snippet']
  exact stands.span

theorem runtimeType (stands : Stands shown shown' inlines node node') :
    runtimeType source node = runtimeType source' node' := by
  induction size : sizeOf node using Nat.strongRecOn generalizing node node' with
  | ind n ih =>
    subst size
    have whole := stands
    cases stands with
    | name => rw [Sfc.runtimeType, Sfc.runtimeType]
    | cast same values types =>
      rw [Sfc.runtimeType, Sfc.runtimeType]
      exact types.snippet agrees
    | @array _ _ elements elements' same parts =>
      rw [Sfc.runtimeType, Sfc.runtimeType, runtimeTypes_eq, runtimeTypes_eq]
      have read : (Sfc.elementsOf elements).map (Sfc.runtimeType source) =
          (Sfc.elementsOf elements').map (Sfc.runtimeType source') := by
        refine map_eq_of_forall₂ (elementsOf parts) fun element element' member stands => ih _ ?_ stands rfl
        have smaller := sizeOf_lt_of_mem_elementsOf member
        simp
        omega
      rw [read]
    | _ => exact whole.snippet agrees

theorem describedProp (name : String) (all : List.Forall₂ (Stands shown shown' inlines) nodes nodes') :
    describedProp source name nodes = describedProp source' name nodes' := by
  unfold Sfc.describedProp
  have entries := entriesOf all
  revert entries
  generalize Sfc.entriesOf nodes = read, Sfc.entriesOf nodes' = read',
    DeclaredProp.mk name unknownType false none = prop
  intro entries
  induction entries generalizing prop with
  | nil => rfl
  | @cons entry entry' _ _ first rest ih =>
    rw [List.foldl_cons, List.foldl_cons, ih]
    congr 1
    obtain ⟨key, value?⟩ := entry
    obtain ⟨key', value?'⟩ := entry'
    obtain ⟨same, values⟩ := first
    obtain rfl : key = key' := same
    -- An entry without a value, or with another key, changes nothing.
    by_cases typed : key = "type"
    · subst typed
      cases values with
      | none => rfl
      | some value => exact congrArg (fun type => { prop with type }) (value.runtimeType agrees)
    by_cases required : key = "required"
    · subst required
      cases values with
      | none => rfl
      | some value =>
        refine congrArg (fun required => { prop with required }) ?_
        cases value <;> rfl
    by_cases default_ : key = "default"
    · subst default_
      cases values with
      | none => rfl
      | some value => exact congrArg (fun text => { prop with default? := some text }) (value.snippet agrees)
    · split <;> simp_all

theorem runtimeProp {entry entry' : String × Option Node} (stands : EntryStands shown shown' inlines entry entry') :
    runtimeProp source entry = runtimeProp source' entry' := by
  obtain ⟨name, value?⟩ := entry
  obtain ⟨name', value?'⟩ := entry'
  obtain ⟨same, values⟩ := stands
  obtain rfl : name = name' := same
  cases values with
  | none => rfl
  | some value =>
    have type := value.runtimeType agrees
    cases value with
    | object same parts => exact describedProp agrees name parts
    | _ => exact congrArg (DeclaredProp.mk name · false none) type

theorem typedProp? (stands : Stands shown shown' inlines node node') :
    typedProp? source node = typedProp? source' node' := by
  cases stands with
  | property same keys types => rw [Sfc.typedProp?, Sfc.typedProp?, keys.typeKey?, typeText agrees types]
  | _ => rfl

theorem payloadText (stands : Stands shown shown' inlines node node') :
    payloadText source node = payloadText source' node' := by
  have whole := stands
  cases stands with
  | binding same types => rw [Sfc.payloadText, Sfc.payloadText, typeText agrees types]
  | _ => exact whole.snippet agrees

theorem typedEvent? (stands : Stands shown shown' inlines node node') :
    typedEvent? source node = typedEvent? source' node' := by
  cases stands with
  | property same keys types => rw [Sfc.typedEvent?, Sfc.typedEvent?, keys.typeKey?, typeText agrees types]
  | callSignature same bound others =>
    cases bound with
    | nil => rfl
    | cons first payload =>
      cases first with
      | binding same types =>
        cases types with
        | nil => rfl
        | cons type types =>
          cases type with
          | stringType same =>
            have texts := map_eq_of_forall₂ payload fun _ _ _ stands => payloadText agrees stands
            rw [Sfc.typedEvent?, Sfc.typedEvent?, texts]
          | _ => rfl
      | _ => rfl
  | _ => rfl

theorem typedSlot? (stands : Stands shown shown' inlines node node') :
    typedSlot? source node = typedSlot? source' node' := by
  cases stands with
  | property same keys types => rw [Sfc.typedSlot?, Sfc.typedSlot?, keys.typeKey?, typeText agrees types]
  | methodSignature same keys bound others =>
    rw [Sfc.typedSlot?, Sfc.typedSlot?, keys.typeKey?]
    cases bound with
    | nil => rfl
    | cons first rest =>
      cases first with
      | binding same types =>
        dsimp only
        rw [typeText agrees types]
      | _ => rfl
  | _ => rfl

end Stands

theorem propsOf_eq (arguments : List.Forall₂ (Stands shown shown' inlines) args args')
    (members : MembersStand shown shown' inlines source source' types types') :
    propsOf source args types = propsOf source' args' types' := by
  cases members with
  | some members => exact filterMap_eq_of_forall₂ (fun _ _ stands => stands.typedProp? agrees) members
  | none =>
    have undotted := Stands.undotted arguments
    unfold propsOf
    revert undotted
    generalize args.map withoutDots = values, args'.map withoutDots = values'
    intro undotted
    cases undotted with
    | nil => rfl
    | cons first rest =>
      cases first with
      | array same parts =>
        have names := filterMap_eq_of_forall₂ (fun _ _ stands => stands.stringText?) (Stands.elementsOf parts)
        dsimp only
        rw [names]
      | object same parts =>
        exact map_eq_of_forall₂ (Stands.entriesOf parts) fun _ _ _ stands => Stands.runtimeProp agrees stands
      | _ => rfl

theorem eventsOf_eq (arguments : List.Forall₂ (Stands shown shown' inlines) args args')
    (members : MembersStand shown shown' inlines source source' types types') :
    eventsOf source args types = eventsOf source' args' types' := by
  cases members with
  | some members => exact filterMap_eq_of_forall₂ (fun _ _ stands => stands.typedEvent? agrees) members
  | none =>
    have undotted := Stands.undotted arguments
    unfold eventsOf
    revert undotted
    generalize args.map withoutDots = values, args'.map withoutDots = values'
    intro undotted
    cases undotted with
    | nil => rfl
    | cons first rest =>
      cases first with
      | array same parts =>
        have names := filterMap_eq_of_forall₂ (fun _ _ stands => stands.stringText?) (Stands.elementsOf parts)
        dsimp only
        rw [names]
      | object same parts =>
        exact map_eq_of_forall₂ (Stands.entriesOf parts) fun _ _ _ stands => congrArg (Member.mk · "any[]") stands.1
      | _ => rfl

theorem slotsOf_eq (members : MembersStand shown shown' inlines source source' types types') :
    slotsOf source types = slotsOf source' types' := by
  cases members with
  | none => rfl
  | some members => exact filterMap_eq_of_forall₂ (fun _ _ stands => stands.typedSlot? agrees) members

theorem defaultsOf_eq (arguments : List.Forall₂ (Stands shown shown' inlines) args args') :
    defaultsOf source args = defaultsOf source' args' := by
  have undotted := Stands.undotted arguments
  unfold defaultsOf
  revert undotted
  generalize args.map withoutDots = values, args'.map withoutDots = values'
  intro undotted
  cases undotted with
  | nil => rfl
  | cons first rest =>
    cases rest with
    | nil => rfl
    | cons second rest =>
      cases second with
      | object same parts =>
        refine filterMap_eq_of_forall₂ (fun entry entry' stands => ?_) (Stands.entriesOf parts)
        obtain ⟨key, value?⟩ := entry
        obtain ⟨key', value?'⟩ := entry'
        obtain ⟨same, values⟩ := stands
        obtain rfl : key = key' := same
        cases values with
        | none => rfl
        | some value => exact congrArg (fun text => some (key, text)) (value.snippet agrees)
      | _ => rfl

omit agrees in
theorem exposedOf_eq (arguments : List.Forall₂ (Stands shown shown' inlines) args args') :
    exposedOf args = exposedOf args' := by
  have undotted := Stands.undotted arguments
  unfold exposedOf
  revert undotted
  generalize args.map withoutDots = values, args'.map withoutDots = values'
  intro undotted
  cases undotted with
  | nil => rfl
  | cons first rest =>
    cases first with
    | object same parts =>
      refine map_eq_of_forall₂ (Stands.entriesOf parts) fun entry entry' _ stands => ?_
      obtain ⟨key, value?⟩ := entry
      obtain ⟨key', value?'⟩ := entry'
      obtain ⟨same, values⟩ := stands
      obtain rfl : key = key' := same
      cases values with
      | none => rfl
      | some value => exact congrArg (Member.mk key) value.exposedType
    | _ => rfl

end

/-! ## Whole trees -/

theorem preorder_eq (open_ : Node → Bool) (node : Node) :
    node.preorder open_ = node :: if open_ node then node.parts.flatMap (Node.preorder open_) else [] := by
  have unattached : node.parts.attach.flatMap (fun part => part.val.preorder open_) =
      node.parts.flatMap (Node.preorder open_) := by
    rw [← List.flatMap_map (f := Subtype.val), List.attach_map_subtype_val]
  rw [Node.preorder, ← unattached]

/-- What holds of a node if it holds of its parts holds of all nodes. -/
theorem node_induction {motive : Node → Prop} (step : ∀ node, (∀ part ∈ node.parts, motive part) → motive node)
    (node : Node) : motive node :=
  step node fun part _ => node_induction step part
termination_by sizeOf node
decreasing_by exact Node.sizeOf_lt_of_mem_parts ‹_›

/-- What is visited below nodes of a kind is visited below all nodes. -/
theorem mem_preorder_all {open_ : Node → Bool} {inner : Node} (visited : inner ∈ node.preorder open_) :
    inner ∈ node.preorder fun _ => true := by
  induction node using node_induction with
  | step node ih =>
    rw [preorder_eq] at visited ⊢
    rcases List.mem_cons.mp visited with rfl | below
    · exact List.mem_cons_self
    · split at below
      · obtain ⟨part, listed, deeper⟩ := List.mem_flatMap.mp below
        exact List.mem_cons_of_mem _ (List.mem_flatMap.mpr ⟨part, listed, ih part listed deeper⟩)
      · simp at below

/-- Is a node neither a call nor one that names a type? -/
def isSilent : Node → Bool
  | .call _ _ _ _ | .interfaceDecl _ _ _ _ | .aliasDecl _ _ _ _ => false
  | _ => true

/-- The last rule is the only one that changes the parts. -/
theorem Stands.parts_or (stands : Stands shown shown' inlines node node') :
    List.Forall₂ (Stands shown shown' inlines) node.parts node'.parts ∨
      ∃ s s' c c' t t' e callee name args args' members members',
        node = .call s (.name c callee) args [.typeRef t (.name e name) []] ∧
        node' = .call s' (.name c' callee) args' [.typeLiteral t' members'] ∧ shown c = shown' c' ∧
        inlines s name members ∧ List.Forall₂ (Stands shown shown' inlines) args args' ∧
        List.Forall₂ (Stands shown shown' inlines) members members' := by
  cases stands with
  | inlined same callees macro_ allowed arguments parts =>
    exact .inr ⟨_, _, _, _, _, _, _, _, _, _, _, _, _, rfl, rfl, callees, allowed, arguments, parts⟩
  | array same parts => exact .inl parts
  | object same parts => exact .inl parts
  | typeLiteral same parts => exact .inl parts
  | other same parts => exact .inl parts
  | binding same types => exact .inl types
  | entry same keys values => exact .inl (.cons keys (.cons values .nil))
  | shorthand same keys => exact .inl (.cons keys .nil)
  | method same keys functions => exact .inl (.cons keys (.cons functions .nil))
  | cast same values types => exact .inl (.cons values (.cons types .nil))
  | call same callees arguments parameters => exact .inl (.cons callees (List.rel_append arguments parameters))
  | typeRef same entities parameters => exact .inl (.cons entities parameters)
  | property same keys types => exact .inl (.cons keys types)
  | callSignature same bound others => exact .inl (List.rel_append bound others)
  | methodSignature same keys bound others => exact .inl (.cons keys (List.rel_append bound others))
  | interfaceDecl same parts others => exact .inl (List.rel_append others parts)
  | aliasDecl same types others => exact .inl (List.rel_append others (.cons types .nil))
  | _ => exact .inl .nil

theorem Stands.isSilent (stands : Stands shown shown' inlines node node') : isSilent node = isSilent node' := by
  cases stands <;> rfl

theorem Stands.namesType (stands : Stands shown shown' inlines node node') : namesType node = namesType node' := by
  cases stands <;> rfl

/-- Below a node without calls and declarations of types, what stands for it has none either. -/
theorem Stands.silent_below (stands : Stands shown shown' inlines node node')
    (silent : ∀ inner ∈ node.preorder fun _ => true, Sfc.isSilent inner = true) :
    ∀ inner ∈ node'.preorder fun _ => true, Sfc.isSilent inner = true := by
  induction node using node_induction generalizing node' with
  | step node ih =>
    have here := silent node (by rw [preorder_eq]; exact List.mem_cons_self)
    rcases stands.parts_or with parts | ⟨_, _, _, _, _, _, _, _, _, _, _, _, _, rfl, -⟩
    · intro inner visited
      rw [preorder_eq] at visited
      rcases List.mem_cons.mp visited with rfl | below
      · rw [← stands.isSilent]
        exact here
      · obtain ⟨part', listed', deeper⟩ := List.mem_flatMap.mp below
        obtain ⟨part, listed, related⟩ := exists_of_forall₂_of_mem parts listed'
        refine ih part listed related (fun inner visited => silent inner ?_) inner deeper
        rw [preorder_eq]
        exact List.mem_cons_of_mem _ (List.mem_flatMap.mpr ⟨part, listed, visited⟩)
    · exact Bool.noConfusion here

/-- What is read from the nodes below is related if what is read from each node is, where nothing is read from
a node that is neither a call nor one that names a type. -/
theorem Stands.flatMap_preorder {α β : Type} {R : α → β → Prop} {open_ : Node → Bool} {read : Node → List α}
    {read' : Node → List β}
    (same : ∀ node node', Stands shown shown' inlines node node' → List.Forall₂ R (read node) (read' node'))
    (opens : ∀ node node', Stands shown shown' inlines node node' → open_ node = open_ node')
    (quiet : ∀ node, Sfc.isSilent node = true → read node = [])
    (quiet' : ∀ node, Sfc.isSilent node = true → read' node = [])
    (silent : ∀ span name members, inlines span name members → ∀ inner ∈ nodesOf members, Sfc.isSilent inner = true)
    (stands : Stands shown shown' inlines node node') :
    List.Forall₂ R ((node.preorder open_).flatMap read) ((node'.preorder open_).flatMap read') := by
  induction node using node_induction generalizing node' with
  | step node ih =>
    have below (parts parts' : List Node) (listed : ∀ part ∈ parts, part ∈ node.parts)
        (all : List.Forall₂ (Stands shown shown' inlines) parts parts') :
        List.Forall₂ R ((parts.flatMap (Node.preorder open_)).flatMap read)
          ((parts'.flatMap (Node.preorder open_)).flatMap read') := by
      induction all with
      | nil => exact .nil
      | cons first rest ih' =>
        simp only [List.flatMap_cons, List.flatMap_append]
        exact List.rel_append (ih _ (listed _ List.mem_cons_self) first)
          (ih' fun part member => listed part (List.mem_cons_of_mem _ member))
    have here := same node node' stands
    rw [preorder_eq, preorder_eq, ← opens node node' stands, List.flatMap_cons, List.flatMap_cons]
    refine List.rel_append here ?_
    split
    case isFalse => exact .nil
    case isTrue =>
      rcases stands.parts_or with parts |
        ⟨s, s', c, c', t, t', e, callee, name, args, args', members, members', rfl, rfl, callees, allowed, arguments,
          parts⟩
      · exact below _ _ (fun part member => member) parts
      · -- In place of the name stand members from which nothing is read.
        have front := below (.name c callee :: args) (.name c' callee :: args')
          (fun part member => List.mem_append_left [Node.typeRef t (.name e name) []] member)
          (.cons (.name callees) arguments)
        have named : ∀ inner ∈ (Node.typeRef t (.name e name) []).preorder fun _ => true,
            Sfc.isSilent inner = true := by
          intro inner visited
          have either : inner = .typeRef t (.name e name) [] ∨ inner = .name e name := by
            simpa [preorder_eq, Node.parts] using visited
          rcases either with rfl | rfl <;> rfl
        have given : ∀ inner ∈ (Node.typeLiteral t' members').preorder fun _ => true, Sfc.isSilent inner = true := by
          intro inner visited
          rw [preorder_eq] at visited
          rcases List.mem_cons.mp visited with rfl | deeper
          · rfl
          · obtain ⟨member', listed', deepest⟩ := List.mem_flatMap.mp deeper
            obtain ⟨member, listed, related⟩ := exists_of_forall₂_of_mem parts listed'
            refine related.silent_below (fun inner visited => ?_) inner deepest
            exact silent _ _ _ allowed inner (List.mem_flatMap.mpr ⟨member, listed, visited⟩)
        have nothing : ((Node.typeRef t (.name e name) []).preorder open_).flatMap read = [] :=
          List.flatMap_eq_nil_iff.mpr fun inner visited => quiet inner (named inner (mem_preorder_all visited))
        have nothing' : ((Node.typeLiteral t' members').preorder open_).flatMap read' = [] :=
          List.flatMap_eq_nil_iff.mpr fun inner visited => quiet' inner (given inner (mem_preorder_all visited))
        simpa [Node.parts, nothing, nothing'] using front

/-- The same for the nodes of whole scripts. -/
theorem forall₂_flatMap_preorder {α β : Type} {R : α → β → Prop} (open_ : Node → Bool) {read : Node → List α}
    {read' : Node → List β} {script script' : List Node}
    (same : ∀ node node', Stands shown shown' inlines node node' → List.Forall₂ R (read node) (read' node'))
    (opens : ∀ node node', Stands shown shown' inlines node node' → open_ node = open_ node')
    (quiet : ∀ node, isSilent node = true → read node = [])
    (quiet' : ∀ node, isSilent node = true → read' node = [])
    (silent : ∀ span name members, inlines span name members → ∀ inner ∈ nodesOf members, isSilent inner = true)
    (all : List.Forall₂ (Stands shown shown' inlines) script script') :
    List.Forall₂ R ((script.flatMap (Node.preorder open_)).flatMap read)
      ((script'.flatMap (Node.preorder open_)).flatMap read') := by
  induction all with
  | nil => exact .nil
  | cons first rest ih =>
    simp only [List.flatMap_cons, List.flatMap_append]
    exact List.rel_append (first.flatMap_preorder same opens quiet quiet' silent) ih

/-- The types that are named stand for each other. -/
theorem forall₂_namedTypes {script script' : List Node}
    (silent : ∀ span name members, inlines span name members → ∀ inner ∈ nodesOf members, isSilent inner = true)
    (all : List.Forall₂ (Stands shown shown' inlines) script script') :
    List.Forall₂ (fun type type' => type.1 = type'.1 ∧ List.Forall₂ (Stands shown shown' inlines) type.2 type'.2)
      (namedTypes script) (namedTypes script') := by
  have quiet (node : Node) (silent : isSilent node = true) : (namedType? node).toList = [] := by
    cases node <;> first | rfl | exact Bool.noConfusion silent
  rw [namedTypes, namedTypes, List.forall₂_reverse_iff, List.filterMap_eq_flatMap_toList,
    List.filterMap_eq_flatMap_toList]
  refine forall₂_flatMap_preorder _ (fun node node' stands => ?_) (fun node node' stands => by rw [stands.namesType])
    quiet quiet silent all
  cases stands with
  | interfaceDecl same parts others => exact .cons ⟨rfl, parts⟩ .nil
  | aliasDecl same types others =>
    cases types with
    | typeLiteral same parts => exact .cons ⟨rfl, parts⟩ .nil
    | _ => exact .nil
  | _ => exact .nil

/-- What stands under a name stands for what stands under it in the other script. -/
theorem forall₂_lookup {types types' : NamedTypes}
    (all : List.Forall₂ (fun type type' => type.1 = type'.1 ∧ List.Forall₂ (Stands shown shown' inlines) type.2 type'.2)
      types types') (name : String) :
    List.Forall₂ (Stands shown shown' inlines) ((types.lookup name).getD []) ((types'.lookup name).getD []) := by
  induction all with
  | nil => exact .nil
  | @cons type type' _ _ first rest ih =>
    obtain ⟨key, members⟩ := type
    obtain ⟨key', members'⟩ := type'
    obtain ⟨same, parts⟩ := first
    obtain rfl : key = key' := same
    rw [List.lookup_cons, List.lookup_cons]
    cases name == key with
    | true => exact parts
    | false => exact ih

/-- From a call the same is read if it is read from arguments that stand for each other. -/
theorem atCall_eq {α : Type} {read read' : List Node → List Node → List α} (name : String)
    (agrees : Source.Agrees shown shown' inlines source source')
    (same : ∀ {args args' types types' : List Node}, List.Forall₂ (Stands shown shown' inlines) args args' →
      MembersStand shown shown' inlines source source' types types' → read args types = read' args' types')
    (stands : Stands shown shown' inlines node node') : atCall name read node = atCall name read' node' := by
  cases stands with
  | call _ callees arguments parameters =>
    cases callees with
    | name =>
      unfold atCall
      dsimp only
      rw [same arguments (Stands.membersStand agrees parameters)]
    | _ => rfl
  | @inlined _ _ _ _ t t' e _ name _ _ members members' _ callees macro_ allowed arguments parts =>
    have listed : List.Forall₂ (Stands shown shown' inlines) (source.membersOf (.typeRef t (.name e name) []))
        (source'.membersOf (.typeLiteral t' members')) := by
      change List.Forall₂ _ ((source.types.lookup name).getD []) members'
      rw [agrees.inlined _ _ _ allowed]
      exact parts
    unfold atCall
    dsimp only
    rw [same arguments (.some listed)]
  | _ => rfl

/-- Scripts of which the nodes stand for each other declare the same. -/
theorem declaredWith_eq_of_stands {script script' : List Node}
    (silent : ∀ span name members, inlines span name members → ∀ inner ∈ nodesOf members, isSilent inner = true)
    (named : ∀ span name members, inlines span name members → (namedTypes script).lookup name = some members)
    (all : List.Forall₂ (Stands shown shown' inlines) script script') :
    declaredWith shown' script' = declaredWith shown script := by
  have agrees : Source.Agrees shown shown' inlines ⟨shown, namedTypes script⟩ ⟨shown', namedTypes script'⟩ :=
    { snippet := rfl
      snippet' := rfl
      types := forall₂_lookup (forall₂_namedTypes silent all)
      inlined := fun span name members allowed => by rw [named span name members allowed]; rfl }
  have quiet {α : Type} (name : String) (read : List Node → List Node → List α) (node : Node)
      (silent : isSilent node = true) : atCall name read node = [] := by
    cases node <;> first | rfl | exact Bool.noConfusion silent
  have calls {α : Type} {read read' : List Node → List Node → List α} (name : String)
      (same : ∀ {args args' types types' : List Node}, List.Forall₂ (Stands shown shown' inlines) args args' →
        MembersStand shown shown' inlines ⟨shown, namedTypes script⟩ ⟨shown', namedTypes script'⟩ types types' →
          read args types = read' args' types') :
      atCalls name read' (nodesOf script') = atCalls name read (nodesOf script) := by
    have each (node node' : Node) (stands : Stands shown shown' inlines node node') :
        List.Forall₂ Eq (atCall name read node) (atCall name read' node') := by
      rw [List.forall₂_eq_eq_eq]
      exact atCall_eq name agrees same stands
    have whole := forall₂_flatMap_preorder (fun _ => true) each (fun _ _ _ => rfl) (quiet name read)
      (quiet name read') silent all
    rw [List.forall₂_eq_eq_eq] at whole
    exact whole.symm
  rw [declaredWith_eq, declaredWith_eq, declaredIn, declaredIn]
  rw [calls "defineProps" (propsOf_eq agrees), calls "defineSlots" (fun _ => slotsOf_eq agrees),
    calls "defineEmits" (eventsOf_eq agrees), calls "defineExpose" (fun arguments _ => exposedOf_eq arguments),
    calls "withDefaults" (fun arguments _ => defaultsOf_eq agrees arguments)]

/-- A node stands for itself where the same is shown of it and of all nodes below. -/
theorem Stands.refl (same : ∀ inner ∈ node.preorder fun _ => true, shown inner.span = shown' inner.span) :
    Stands shown shown' inlines node node := by
  induction node using node_induction with
  | step node ih =>
    rw [preorder_eq] at same
    have here := same node List.mem_cons_self
    have part (inner : Node) (listed : inner ∈ node.parts) : Stands shown shown' inlines inner inner :=
      ih inner listed fun deeper below =>
        same deeper (List.mem_cons_of_mem _ (List.mem_flatMap.mpr ⟨inner, listed, below⟩))
    have each (parts : List Node) (listed : parts ⊆ node.parts) :
        List.Forall₂ (Stands shown shown' inlines) parts parts :=
      List.forall₂_same.mpr fun inner member => part inner (listed member)
    cases node <;> constructor <;> first
      | exact here
      | exact part _ (by simp [Node.parts])
      | exact each _ (by simp [Node.parts])

/-- Of a script only what is shown of its nodes matters. -/
theorem declaredWith_congr {script : List Node}
    (same : ∀ node ∈ nodesOf script, shown node.span = shown' node.span) :
    declaredWith shown script = declaredWith shown' script := by
  have stands : List.Forall₂ (Stands shown shown' fun _ _ _ => False) script script :=
    List.forall₂_same.mpr fun node listed =>
      .refl fun inner below => same inner (List.mem_flatMap.mpr ⟨node, listed, below⟩)
  exact (declaredWith_eq_of_stands (fun _ _ _ => False.elim) (fun _ _ _ => False.elim) stands).symm

end ComponentCatalog.Sfc
