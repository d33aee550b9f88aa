import RenkuNotebooks.Foundation.JsonPatch
import RenkuNotebooks.Foundation.Program
import RenkuNotebooks.Notebooks.PyDict

/-!
# Migration 1

`adjust_annotations` of `resource_schema_migrations/migration_1.py` as a program that lists and
patches custom objects, and the part of the Kubernetes API that answers it: lists are paged
through a snapshot, and a patch is merged into the object of its name.
-/

namespace RenkuNotebooks.ResourceSchemaMigrations

open Prog
open Notebooks (PyError)
open Notebooks.PyDict (getItem text)

/-! ### The program -/

def schemaVersionLabelName : String := "schemaVersion"

/-- Of the arguments, those that do not only say where the objects are. -/
structure Args where
  annotationPrefix : String
  dryRun : Bool
  deriving DecidableEq, Repr

namespace Args

variable (args : Args)

def annotationKeys : List String :=
  [args.annotationPrefix ++ "projectName", args.annotationPrefix ++ "namespace"]

def schemaVersionLabel : String := args.annotationPrefix ++ schemaVersionLabelName

/-- Only servers that do not have a schema version label. -/
def labelSelector : String := "!" ++ args.schemaVersionLabel

end Args

structure Page where
  items : List Json
  continue? : Option String
  deriving DecidableEq, Repr

inductive Call where
  | list (labelSelector : String) (limit : Nat) (continue_ : String)
  | patch (name : String) (body : Json)

/-- An answer of the API is a status of failure or a value. -/
abbrev Reply : Call → Type
  | .list .. => Except Nat Page
  | .patch .. => Except Nat Unit

abbrev Migration (α : Type) : Type := Prog Call Reply PyError α

def raiseApi {α : Type} : Except Nat α → Migration α
  | .error status => .raise (.apiException status)
  | .ok a => .ret a

def listNamespacedCustomObject (labelSelector : String) (limit : Nat) (continue_ : String) :
    Migration Page :=
  (perform (Call.list labelSelector limit continue_)).bind raiseApi

def patchNamespacedCustomObject (name : String) (body : Json) : Migration Unit :=
  (perform (Call.patch name body)).bind raiseApi

section Program

-- `str.lower`
variable (lower : String → String)
variable (args : Args) (paginationLimit : Nat)

/-- The patch of one annotation: none where the annotation is missing or in lower case. -/
def annotationPatch (js : Json) (annotationKey : String) :
    Except PyError (Option (String × Json)) := do
  let metadata ← getItem "metadata" js
  let annotations ← getItem "annotations" metadata
  match getItem annotationKey annotations with
  | .error (.keyError _) => pure none
  | .error e => throw e
  | .ok annotation => do
    let annotationVal ← text annotation
    if annotationVal ≠ lower annotationVal then
      pure (some (annotationKey, .str (lower annotationVal)))
    else pure none

def annotationPatches (js : Json) : Except PyError (List (String × Json)) :=
  (args.annotationKeys.mapM (annotationPatch lower js)).map fun patches => patches.filterMap id

def metadataPatch (patches : List (String × Json)) : List (String × Json) :=
  ("labels", .obj [(args.schemaVersionLabel, .str "1")]) ::
    if patches = [] then [] else [("annotations", .obj patches)]

def sessionPatch (patches : List (String × Json)) : Json :=
  .obj [("metadata", .obj (metadataPatch args patches))]

/-- The body of the loop over the sessions of a page. -/
def adjustSession (js : Json) : Migration Unit :=
  (ofExcept (getItem "metadata" js >>= getItem "name" >>= text)).bind fun jsName =>
  (ofExcept (annotationPatches lower args js)).bind fun patches =>
  if args.dryRun then .ret ()
  else patchNamespacedCustomObject jsName (sessionPatch args patches)

def adjustSessions : List Json → Migration Unit
  | [] => .ret ()
  | js :: rest => (adjustSession lower args js).bind fun _ => adjustSessions rest

/-- One round of the loop over the pages, with the token of the next page. -/
def adjustPage (nextPage : String) : Migration (Option String) :=
  (listNamespacedCustomObject args.labelSelector paginationLimit nextPage).bind fun jss =>
  (adjustSessions lower args jss.items).bind fun _ =>
  .ret (jss.continue?.filter (· ≠ ""))

/-- At most so many rounds of the loop: whether it has been left. -/
def adjustPages : Nat → String → Migration Bool
  | 0, _ => .ret false
  | rounds + 1, nextPage =>
    (adjustPage lower args paginationLimit nextPage).bind fun
      | none => .ret true
      | some nextPage => adjustPages rounds nextPage

def adjustAnnotations (rounds : Nat) : Migration Bool :=
  adjustPages lower args paginationLimit rounds ""

end Program

/-! ### The Kubernetes API -/

/-- The custom objects of the namespace by their names, and the token of the last page with the
rest of its snapshot. -/
structure Api where
  objects : List (String × Json)
  pending : Option (String × List Json)
  deriving DecidableEq, Repr

/-- Tokens are opaque; the empty one stands for the first page. -/
structure ContinueTokens where
  token : List Json → String
  token_ne : ∀ later, token later ≠ ""

/-- Selectors that ask for the absence of a label. -/
def selects (labelSelector : String) (js : Json) : Bool :=
  match labelSelector.toList with
  | '!' :: label => (Json.dig ["metadata", "labels", String.ofList label] js).isNone
  | _ => false

/-- No limit is spelled as a limit of zero. -/
def firstItems {α : Type} (limit : Nat) (items : List α) : List α :=
  if limit = 0 then items else items.take limit

def laterItems {α : Type} (limit : Nat) (items : List α) : List α :=
  if limit = 0 then [] else items.drop limit

section Items

variable {α β : Type} {limit : Nat}

theorem firstItems_append_laterItems (limit : Nat) (items : List α) :
    firstItems limit items ++ laterItems limit items = items := by
  unfold firstItems laterItems
  split
  · exact List.append_nil items
  · exact List.take_append_drop limit items

theorem firstItems_map (f : α → β) (items : List α) :
    firstItems limit (items.map f) = (firstItems limit items).map f := by
  unfold firstItems
  split
  · rfl
  · exact List.map_take.symm

theorem laterItems_map (f : α → β) (items : List α) :
    laterItems limit (items.map f) = (laterItems limit items).map f := by
  unfold laterItems
  split
  · rfl
  · exact List.map_drop.symm

theorem length_laterItems_lt {items : List α} (h : laterItems limit items ≠ []) :
    (laterItems limit items).length < items.length := by
  unfold laterItems at h ⊢
  split
  · rename_i hlimit
    exact absurd (if_pos hlimit) h
  · rename_i hlimit
    rw [if_neg hlimit] at h
    have hpos := List.length_pos_iff.mpr h
    rw [List.length_drop] at hpos ⊢
    omega

end Items

namespace ContinueTokens

variable (tokens : ContinueTokens)

def page (limit : Nat) (items : List Json) (api : Api) : Except Nat Page × Api :=
  let later := laterItems limit items
  let next := if later = [] then none else some (tokens.token later)
  (.ok { items := firstItems limit items, continue? := next },
    { api with pending := next.map fun token => (token, later) })

def list (labelSelector : String) (limit : Nat) (continue_ : String) (api : Api) :
    Except Nat Page × Api :=
  if continue_ = "" then
    tokens.page limit ((api.objects.map Prod.snd).filter (selects labelSelector)) api
  else
    match api.pending with
    | some (token, items) =>
      if token = continue_ then tokens.page limit items api else (.error 410, api)
    | none => (.error 410, api)

end ContinueTokens

def mergeInto (name : String) (body : Json) (object : String × Json) : String × Json :=
  if object.1 = name then (object.1, Json.mergePatch body object.2) else object

def patch (name : String) (body : Json) (api : Api) : Except Nat Unit × Api :=
  if api.objects.any (·.1 = name) then
    (.ok (), { api with objects := api.objects.map (mergeInto name body) })
  else (.error 404, api)

def serve (tokens : ContinueTokens) : (c : Call) → Api → Reply c × Api
  | .list labelSelector limit continue_, api => tokens.list labelSelector limit continue_ api
  | .patch name body, api => patch name body api

/-- The loop is left within some number of rounds. -/
def Completes (lower : String → String) (tokens : ContinueTokens) (args : Args)
    (paginationLimit : Nat) (before after : Api) : Prop :=
  ∃ rounds, run (serve tokens) (adjustAnnotations lower args paginationLimit rounds) before =
    (.ok true, after)

end RenkuNotebooks.ResourceSchemaMigrations
