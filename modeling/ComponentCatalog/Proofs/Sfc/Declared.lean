import ComponentCatalog.Sfc.Analysis
import Mathlib.Data.List.Basic

/-! # What the calls of a script declare

Each call of one of the five functions declares its part, in the order in which the nodes of the script are
visited. A default value reaches its prop from any call of `withDefaults` or from the options of the prop. It
does so in the form `key: value` only, which is one of the three forms in which an object gives a value.
-/

namespace ComponentCatalog.Sfc

open Script

variable {source : Source} {script entries args types : List Node} {node : Node} {name : String}

/-! ## The calls of a script -/

/-- The nodes of a script, in the order in which they are visited. -/
def nodesOf (script : List Node) : List Node := script.flatMap (Node.preorder fun _ => true)

/-- What is read from a node if it is a call of a function. -/
def atCall {α : Type} (name : String) (read : List Node → List Node → List α) : Node → List α
  | .call _ (.name _ callee) args types => if callee = name then read args types else []
  | _ => []

/-- What is read from the calls of a function. -/
def atCalls {α : Type} (name : String) (read : List Node → List Node → List α) (nodes : List Node) : List α :=
  nodes.flatMap (atCall name read)

section

variable {α β γ : Type} {read : List Node → List Node → List α} {read' : List Node → List Node → List β}

theorem atCalls_cons (name : String) (read : List Node → List Node → List α) (node : Node) (nodes : List Node) :
    atCalls name read (node :: nodes) = atCall name read node ++ atCalls name read nodes := rfl

/-- Two readings of a call that agree on what is looked for agree on it for all calls. -/
theorem any_atCalls {p : α → Bool} {q : β → Bool}
    (same : ∀ args types, (read args types).any p = (read' args types).any q) (nodes : List Node) :
    (atCalls name read nodes).any p = (atCalls name read' nodes).any q := by
  have each (node : Node) : (atCall name read node).any p = (atCall name read' node).any q := by
    unfold atCall
    split
    · split
      · exact same _ _
      · rfl
    · rfl
  induction nodes with
  | nil => rfl
  | cons node nodes ih => rw [atCalls_cons, atCalls_cons, List.any_append, List.any_append, each, ih]

theorem map_atCalls {f : α → γ} {g : β → γ}
    (same : ∀ args types, (read args types).map f = (read' args types).map g) (nodes : List Node) :
    (atCalls name read nodes).map f = (atCalls name read' nodes).map g := by
  have each (node : Node) : (atCall name read node).map f = (atCall name read' node).map g := by
    unfold atCall
    split
    · split
      · exact same _ _
      · rfl
    · rfl
  induction nodes with
  | nil => rfl
  | cons node nodes ih => rw [atCalls_cons, atCalls_cons, List.map_append, List.map_append, each, ih]

end

/-- What the calls among some nodes declare. -/
def declaredIn (source : Source) (nodes : List Node) : Declared where
  interface :=
    { props := atCalls "defineProps" (propsOf source) nodes
      slots := atCalls "defineSlots" (fun _ types => slotsOf source types) nodes
      events := atCalls "defineEmits" (eventsOf source) nodes
      exposed := atCalls "defineExpose" (fun args _ => exposedOf args) nodes }
  defaults := atCalls "withDefaults" (fun args _ => defaultsOf source args) nodes

namespace Declared

/-- What is declared first, and what is declared then. -/
def append (first second : Declared) : Declared where
  interface :=
    { props := first.interface.props ++ second.interface.props
      slots := first.interface.slots ++ second.interface.slots
      events := first.interface.events ++ second.interface.events
      exposed := first.interface.exposed ++ second.interface.exposed }
  defaults := first.defaults ++ second.defaults

theorem append_assoc (first second third : Declared) :
    (first.append second).append third = first.append (second.append third) := by
  simp [append]

theorem append_nil (declared : Declared) : declared.append {} = declared := by
  simp [append]

theorem nil_append (declared : Declared) : append {} declared = declared := rfl

/-- A node adds what is read from it as a call. -/
theorem see_eq (source : Source) (declared : Declared) (node : Node) :
    declared.see source node = declared.append (declaredIn source [node]) := by
  unfold see
  split
  · dsimp only
    split <;> simp_all [append, declaredIn, atCalls, atCall]
  · rename_i other
    have nothing {α : Type} (name : String) (read : List Node → List Node → List α) : atCall name read node = [] := by
      unfold atCall
      split
      · exact absurd rfl (other _ _ _ _ _)
      · rfl
    simp [append, declaredIn, atCalls, nothing]

end Declared

theorem declaredIn_cons (source : Source) (node : Node) (nodes : List Node) :
    declaredIn source (node :: nodes) = (declaredIn source [node]).append (declaredIn source nodes) := by
  simp [declaredIn, Declared.append, atCalls]

/-- What a script declares is what its calls declare. -/
theorem declaredWith_eq (snippet : Span → String) (script : List Node) :
    declaredWith snippet script = declaredIn ⟨snippet, namedTypes script⟩ (nodesOf script) := by
  have from_any (source : Source) (nodes : List Node) (declared : Declared) :
      nodes.foldl (Declared.see source) declared = declared.append (declaredIn source nodes) := by
    induction nodes generalizing declared with
    | nil => exact declared.append_nil.symm
    | cons node nodes ih => rw [List.foldl_cons, ih, Declared.see_eq, Declared.append_assoc, ← declaredIn_cons]
  rw [declaredWith, ← nodesOf, from_any, Declared.nil_append]

/-- The interface that a script declares beside a template, given what is shown of its spans. -/
def interfaceWith (shown : Span → String) (template : Option (List Char)) (script : List Node) : Interface :=
  let declared := declaredWith shown script
  let slots :=
    if declared.interface.slots.isEmpty then (template.map templateSlots).getD [] else declared.interface.slots
  { declared.interface with slots, props := withDefaults declared.defaults declared.interface.props }

/-- The interface of a component is that of its script beside its template. -/
theorem interfaceOf_eq {forceTyped : Bool} {source : List Char} {block : ScriptBlock}
    (chosen : script? source = some block) (parsed : parse (forceTyped || block.isTyped) block.content = .ok script) :
    interfaceOf forceTyped source = .ok (interfaceWith (shownAt block.content) (template? source) script) := by
  rw [interfaceOf, chosen]
  dsimp only
  rw [parsed]
  rfl

/-! ## Where a default value may be given -/

/-- The forms in which an entry of an object literal gives a value. -/
inductive Form
  /-- `key: value` -/
  | keyed
  /-- `key` -/
  | shorthand
  /-- `key() { … }` -/
  | method
  deriving DecidableEq

/-- The form of an entry, with its key. -/
def formOf? : Node → Option (Form × String)
  | .entry _ key _ => (typeKey? key).map (.keyed, ·)
  | .shorthand _ key => (typeKey? key).map (.shorthand, ·)
  | .method _ key _ => (typeKey? key).map (.method, ·)
  | _ => none

/-- Does an object literal give a value to a key in a form? -/
def gives (form : Form) (key : String) (entries : List Node) : Bool := entries.any (formOf? · = some (form, key))

/-- A prop where it is declared, with the entries of the object that describes it at run time. -/
structure PropSite where
  name : String
  options : List Node

/-- The props that a call of `defineProps` declares. -/
def sitesOf (source : Source) (args types : List Node) : List PropSite :=
  match types, args.map withoutDots with
  | type :: _, _ => (source.membersOf type).filterMap fun
    | .property _ key _ _ => (typeKey? key).map (⟨·, []⟩)
    | _ => none
  | [], .array _ elements :: _ => ((elementsOf elements).filterMap stringText?).map (⟨·, []⟩)
  | [], .object _ entries :: _ => (entriesOf entries).map fun
    | (name, some (.object _ options)) => ⟨name, options⟩
    | (name, _) => ⟨name, []⟩
  | [], _ => []

/-- The entries of the object that a call of `withDefaults` takes behind the props. -/
def defaultObject (args : List Node) : List (List Node) :=
  match args.map withoutDots with
  | _ :: .object _ entries :: _ => [entries]
  | _ => []

/-- The entries of the objects that the calls of `withDefaults` take. -/
def defaultObjects (script : List Node) : List (List Node) :=
  atCalls "withDefaults" (fun args _ => defaultObject args) (nodesOf script)

/-- The props that a script declares by `defineProps`; what is shown of it does not matter for where they are. -/
def propSites (script : List Node) : List PropSite :=
  atCalls "defineProps" (sitesOf ⟨fun _ => unknownType, namedTypes script⟩) (nodesOf script)

/-- Is the default value of a prop given in a form, by `withDefaults` or in the options of the prop? -/
def PropSite.isGiven (form : Form) (script : List Node) (site : PropSite) : Bool :=
  (defaultObjects script).any (gives form site.name) || gives form "default" site.options

/-! ## Which default values are read -/

/-- An entry of an object literal that has a name, with its value if it is read. -/
def entryOf? : Node → Option (String × Option Node)
  | .entry _ key value => (typeKey? key).map (·, some value)
  | .shorthand _ key => (typeKey? key).map (·, none)
  | .method _ key _ => (typeKey? key).map (·, none)
  | _ => none

theorem entriesOf_eq (entries : List Node) : entriesOf entries = entries.filterMap entryOf? := rfl

/-- A value is read of the entries that are written with a colon. -/
theorem any_entriesOf (key : String) (entries : List Node) :
    (entriesOf entries).any (fun entry => entry.1 == key && entry.2.isSome) = gives .keyed key entries := by
  rw [entriesOf_eq, List.any_filterMap, gives]
  congr 1
  funext entry
  cases entry with
  | entry _ key' value =>
    cases named : typeKey? key' with
    | none => simp [entryOf?, formOf?, named]
    | some name => simp [entryOf?, formOf?, named, beq_eq_decide]
  | shorthand _ key' => cases named : typeKey? key' <;> simp [entryOf?, formOf?, named]
  | method _ key' function => cases named : typeKey? key' <;> simp [entryOf?, formOf?, named]
  | _ => rfl

/-- A prop that is described by an object has a default value if the object gives one with a colon. -/
theorem describedProp_spec (source : Source) (name : String) (entries : List Node) :
    (describedProp source name entries).name = name ∧
      (describedProp source name entries).default?.isSome = gives .keyed "default" entries := by
  have fold {step : DeclaredProp → String × Option Node → DeclaredProp}
      (keeps : ∀ prop entry, (step prop entry).name = prop.name ∧
        (step prop entry).default?.isSome = (prop.default?.isSome || (entry.1 == "default" && entry.2.isSome)))
      (read : List (String × Option Node)) (prop : DeclaredProp) : (read.foldl step prop).name = prop.name ∧
        (read.foldl step prop).default?.isSome =
          (prop.default?.isSome || read.any fun entry => entry.1 == "default" && entry.2.isSome) := by
    induction read generalizing prop with
    | nil => simp
    | cons entry read ih =>
      have here := keeps prop entry
      have there := ih (step prop entry)
      rw [List.foldl_cons, List.any_cons, there.1, there.2, here.1, here.2, Bool.or_assoc]
      exact ⟨rfl, rfl⟩
  rw [← any_entriesOf]
  refine fold (fun prop entry => ?_) (entriesOf entries) ⟨name, unknownType, false, none⟩
  split
  · simp
  · simp
  · simp
  · rename_i other
    obtain ⟨key, value?⟩ := entry
    cases value? with
    | none => simp
    | some value =>
      have named : key ≠ "default" := fun same => other value (by rw [same])
      simp [named]

/-- The props of a call, with whether their own options give a default value. -/
theorem map_propsOf (source : Source) (args types : List Node) :
    (propsOf source args types).map (fun prop => (prop.name, prop.default?.isSome)) =
      (sitesOf source args types).map fun site => (site.name, gives .keyed "default" site.options) := by
  cases types with
  | cons type types =>
    change ((source.membersOf type).filterMap (typedProp? source)).map _ = ((source.membersOf type).filterMap _).map _
    rw [List.map_filterMap, List.map_filterMap]
    congr 1
    funext member
    cases member with
    | property _ key _ _ => cases named : typeKey? key <;> simp [typedProp?, named, gives]
    | _ => rfl
  | nil =>
    unfold propsOf sitesOf
    generalize args.map withoutDots = values
    cases values with
    | nil => rfl
    | cons first rest =>
      cases first with
      | array _ elements => simp [gives, Function.comp_def]
      | object _ entries =>
        dsimp only
        rw [List.map_map, List.map_map]
        apply List.map_congr_left
        rintro ⟨name, value?⟩ -
        cases value? with
        | none => rfl
        | some value =>
          cases value with
          | object _ options => exact Prod.ext (describedProp_spec _ _ _).1 (describedProp_spec _ _ _).2
          | _ => rfl
      | _ => rfl

/-- A call of `withDefaults` has a value for a prop if its object gives one with a colon. -/
theorem any_defaultsOf (source : Source) (args : List Node) (name : String) :
    (defaultsOf source args).any (·.1 == name) = (defaultObject args).any (gives .keyed name) := by
  have read (entries : List Node) :
      ((entriesOf entries).filterMap fun entry =>
        entry.2.map fun value => (entry.1, source.snippet value.span)).any (·.1 == name) =
          gives .keyed name entries := by
    rw [List.any_filterMap, ← any_entriesOf]
    congr 1
    funext entry
    cases entry.2 <;> simp
  unfold defaultsOf defaultObject
  rcases args.map withoutDots with _ | ⟨first, _ | ⟨second, rest⟩⟩
  · rfl
  · rfl
  · cases second with
    | object _ entries => exact (read entries).trans (Bool.or_false _).symm
    | _ => rfl

/-- The props with their default values, with whether there is one. -/
theorem map_withDefaults (defaults : List (String × String)) (props : List DeclaredProp) :
    (withDefaults defaults props).map (fun prop => (prop.name, prop.default?.isSome)) =
      props.map fun prop => (prop.name, defaults.any (·.1 == prop.name) || prop.default?.isSome) := by
  rw [withDefaults, List.map_map]
  apply List.map_congr_left
  intro prop _
  have found : (defaults.reverse.lookup prop.name).isSome = defaults.any (·.1 == prop.name) := by
    rw [Bool.eq_iff_iff, List.lookup_isSome_iff, List.any_eq_true]
    simp only [List.mem_reverse, BEq.comm]
  rw [← found, Function.comp]
  cases defaults.reverse.lookup prop.name <;> simp

/-- The props that a script declares, each with whether a default value is shown for it. -/
theorem map_props_declaredWith (snippet : Span → String) (script : List Node) :
    (withDefaults (declaredWith snippet script).defaults (declaredWith snippet script).interface.props).map
        (fun prop => (prop.name, prop.default?.isSome)) =
      (propSites script).map fun site => (site.name, site.isGiven .keyed script) := by
  have apart (name : String) : (declaredWith snippet script).defaults.any (·.1 == name) =
      (defaultObjects script).any (gives .keyed name) := by
    rw [declaredWith_eq]
    exact any_atCalls (fun args _ => any_defaultsOf _ args name) (nodesOf script)
  have own : (declaredWith snippet script).interface.props.map (fun prop => (prop.name, prop.default?.isSome)) =
      (propSites script).map fun site => (site.name, gives .keyed "default" site.options) := by
    rw [declaredWith_eq]
    exact map_atCalls (fun args types => map_propsOf _ args types) (nodesOf script)
  calc
    _ = (declaredWith snippet script).interface.props.map fun prop =>
        (prop.name, (defaultObjects script).any (gives .keyed prop.name) || prop.default?.isSome) := by
      rw [map_withDefaults]
      simp only [apart]
    _ = ((declaredWith snippet script).interface.props.map fun prop => (prop.name, prop.default?.isSome)).map
        fun shown => (shown.1, (defaultObjects script).any (gives .keyed shown.1) || shown.2) := by
      rw [List.map_map]
      rfl
    _ = _ := by
      rw [own, List.map_map]
      rfl

/-- The props of a component whose script parses are those that it declares by `defineProps`, in their order. A
default value is shown of those for which one is given in the form `key: value`, by `withDefaults` or in the
options of the prop, and of no others. -/
theorem props_default?_isSome {forceTyped : Bool} {source : List Char} {block : ScriptBlock} {script : List Node}
    (chosen : script? source = some block) (parsed : parse (forceTyped || block.isTyped) block.content = .ok script) :
    ∃ interface, interfaceOf forceTyped source = .ok interface ∧
      interface.props.map (fun prop => (prop.name, prop.default?.isSome)) =
        (propSites script).map fun site => (site.name, site.isGiven .keyed script) := by
  exact ⟨_, interfaceOf_eq chosen parsed, map_props_declaredWith _ _⟩

theorem exists_ok_of_any {ε α : Type} {result : Except ε α} {p : α → Bool} (holds : result.toOption.any p = true) :
    ∃ value, result = .ok value ∧ p value = true := by
  cases result with
  | error => exact Bool.noConfusion holds
  | ok value => exact ⟨value, rfl, holds⟩

/-- A script of a language with types. -/
def typedBlock (content : String) : ScriptBlock := ⟨" lang=\"ts\"".toList, content.toList⟩

/-- A file of one script. -/
def fileWith (block : ScriptBlock) : List Char :=
  "<script".toList ++ block.attributes ++ ['>'] ++ block.content ++ "</script>".toList

/-- A script that gives one default value by a name alone, and one with a colon. -/
def formsBlock : ScriptBlock :=
  typedBlock "withDefaults(defineProps<\x7b size?: string; kind?: string \x7d>(), \x7b size, kind: 'a' \x7d)"

theorem script?_forms : script? (fileWith formsBlock) = some formsBlock := by decide +kernel

theorem props_default?_isSome_forms :
    script? (fileWith formsBlock) = some formsBlock ∧ ∃ script,
      parse (true || formsBlock.isTyped) formsBlock.content = .ok script ∧ ∃ interface,
        interfaceOf true (fileWith formsBlock) = .ok interface ∧
        interface.props.map (fun prop => (prop.name, prop.default?.isSome)) =
          (propSites script).map fun site => (site.name, site.isGiven .keyed script) := by
  have parses : (parse (true || formsBlock.isTyped) formsBlock.content).toOption.any (fun _ => true) = true := by
    decide +kernel
  obtain ⟨script, parsed, -⟩ := exists_ok_of_any parses
  exact ⟨script?_forms, script, parsed, props_default?_isSome script?_forms parsed⟩

/-- A default value that is given by a name alone is not shown. -/
theorem not_default?_isSome_shorthand :
    ¬ ∀ (source : List Char) (block : ScriptBlock) (script : List Node) (interface : Interface),
      script? source = some block → parse true block.content = .ok script → interfaceOf true source = .ok interface →
        ∀ shown ∈ (propSites script).zip interface.props, ∀ form,
          shown.1.isGiven form script = true → shown.2.default?.isSome = true := by
  intro claimed
  have missing : (parse true formsBlock.content).toOption.any (fun script =>
      (interfaceOf true (fileWith formsBlock)).toOption.any fun interface =>
        ((propSites script).zip interface.props).any fun shown =>
          shown.1.isGiven .shorthand script && !shown.2.default?.isSome) = true := by
    decide +kernel
  obtain ⟨script, parsed, missing⟩ := exists_ok_of_any missing
  obtain ⟨interface, found, missing⟩ := exists_ok_of_any missing
  obtain ⟨shown, member, missing⟩ := List.any_eq_true.mp missing
  rw [Bool.and_eq_true, Bool.not_eq_true'] at missing
  have given := claimed _ formsBlock script interface script?_forms parsed found shown member .shorthand missing.1
  rw [missing.2] at given
  exact Bool.noConfusion given

end ComponentCatalog.Sfc
