import RenkuNotebooks.ResourceSchemaMigrations.Migration1
import RenkuNotebooks.Foundation.PyText
import RenkuNotebooks.Foundation.Results
import Mathlib.Data.List.Forall2
import Mathlib.Data.List.Nodup

/-!
# Adjusted annotations

Which populations of JupyterServers migration 1 brings to schema version 1. An object without
annotations ends the run with an error, and the objects after it are not migrated.
-/

namespace RenkuNotebooks.ResourceSchemaMigrations

open Prog
open Notebooks (PyError)
open Notebooks.PyDict (getItem text)
open Json (dig)

/-! ### Objects -/

/-- What the API guarantees of an object: its name, and that annotations are texts. -/
structure WellFormed (object : String × Json) : Prop where
  name : dig ["metadata", "name"] object.2 = some (.str object.1)
  annotations : ∀ annotations, dig ["metadata", "annotations"] object.2 = some annotations →
    ∃ ms, annotations = .obj ms ∧ ∀ key value, Json.getMember key ms = some value →
      ∃ s, value = .str s

/-- The JupyterServers of a namespace. -/
structure Population where
  objects : List (String × Json)
  nodup : (objects.map Prod.fst).Nodup
  wellFormed : ∀ object ∈ objects, WellFormed object

def Population.api (population : Population) : Api :=
  { objects := population.objects, pending := none }

section Adjusted

variable (lower : String → String) (args : Args)

def annotationLocation (key : String) : List String := ["metadata", "annotations", key]

def labelLocation : List String := ["metadata", "labels", args.schemaVersionLabel]

def changedLocations : List (List String) :=
  labelLocation args :: args.annotationKeys.map annotationLocation

def Annotated (js : Json) : Prop := dig ["metadata", "annotations"] js ≠ none

instance (js : Json) : Decidable (Annotated js) :=
  inferInstanceAs (Decidable (dig ["metadata", "annotations"] js ≠ none))

def Unlabelled (object : String × Json) : Prop := dig (labelLocation args) object.2 = none

instance (object : String × Json) : Decidable (Unlabelled args object) :=
  inferInstanceAs (Decidable (dig (labelLocation args) object.2 = none))

def lowerText : Json → Json
  | .str s => .str (lower s)
  | j => j

/-- The label is set, both annotations are in lower case where they exist, and nothing else has
changed. -/
structure Adjusted (js js' : Json) : Prop where
  label : dig (labelLocation args) js' = some (.str "1")
  annotations : ∀ key ∈ args.annotationKeys,
    dig (annotationLocation key) js' = (dig (annotationLocation key) js).map (lowerText lower)
  rest : ∀ location, (∀ changed ∈ changedLocations args,
    ¬ changed <+: location ∧ ¬ location <+: changed) → dig location js' = dig location js

/-! ### The patch of a session -/

theorem annotationKeys_nodup : args.annotationKeys.Nodup := by
  have hne : "projectName" ≠ "namespace" := by decide
  simp [Args.annotationKeys, hne]

/-- The annotation in lower case, where that is a change. -/
def loweredEntry (js : Json) (key : String) : Option (String × Json) :=
  match dig (annotationLocation key) js with
  | some (.str s) => if s ≠ lower s then some (key, .str (lower s)) else none
  | _ => none

def loweredAnnotations (js : Json) : List (String × Json) :=
  args.annotationKeys.filterMap (loweredEntry lower js)

def adjustedSession (js : Json) : Json :=
  Json.mergePatch (sessionPatch args (loweredAnnotations lower args js)) js

variable {lower args}

theorem annotationPatch_eq {object : String × Json} (hobject : WellFormed object)
    (hannotated : Annotated object.2) (key : String) :
    annotationPatch lower object.2 key = .ok (loweredEntry lower object.2 key) := by
  obtain ⟨annotations, hannotations⟩ := Option.ne_none_iff_exists'.mp hannotated
  obtain ⟨ms, rfl, htexts⟩ := hobject.annotations annotations hannotations
  obtain ⟨metadata, hmetadata, hget⟩ := Option.bind_eq_some_iff.mp hannotations
  rw [Json.dig_singleton] at hget
  have hdig : dig (annotationLocation key) object.2 = Json.getMember key ms := by
    have happend := Json.dig_append ["metadata", "annotations"] [key] object.2
    rw [hannotations, Option.bind_some, Json.dig_singleton] at happend
    exact happend
  have hmetadata' := Notebooks.PyDict.getItem_of_get? hmetadata
  have hget' := Notebooks.PyDict.getItem_of_get? hget
  rw [loweredEntry, hdig]
  cases hvalue : Json.getMember key ms with
  | none =>
    have hitem : getItem key (.obj ms) = .error (.keyError key) := by
      rw [getItem, hvalue, Option.elim_none]
    simp only [annotationPatch, hmetadata', hget', hitem, Bind.bind, Except.bind]
    rfl
  | some value =>
    obtain ⟨s, rfl⟩ := htexts key value hvalue
    have hitem : getItem key (.obj ms) = .ok (.str s) := by
      rw [getItem, hvalue, Option.elim_some]
    by_cases hs : s ≠ lower s
    · simp only [annotationPatch, hmetadata', hget', hitem, Bind.bind, Except.bind, text, if_pos hs]
      rfl
    · simp only [annotationPatch, hmetadata', hget', hitem, Bind.bind, Except.bind, text, if_neg hs]
      rfl

theorem annotationPatches_eq {object : String × Json} (hobject : WellFormed object)
    (hannotated : Annotated object.2) :
    annotationPatches lower args object.2 = .ok (loweredAnnotations lower args object.2) := by
  have hpatches : args.annotationKeys.mapM (annotationPatch lower object.2) =
      .ok (args.annotationKeys.map (loweredEntry lower object.2)) :=
    Results.mapM_eq_ok_map fun key _ => annotationPatch_eq hobject hannotated key
  rw [annotationPatches, hpatches, loweredAnnotations]
  simp [Except.map, List.filterMap_map]

theorem loweredEntry_eq_some_iff {js : Json} {key : String} {p : String × Json} :
    loweredEntry lower js key = some p ↔
      ∃ s, dig (annotationLocation key) js = some (.str s) ∧ s ≠ lower s ∧
        p = (key, .str (lower s)) := by
  unfold loweredEntry
  split
  · rename_i s hs
    rw [hs]
    constructor
    · intro h
      split at h
      · rename_i hne
        cases h
        exact ⟨s, rfl, hne, rfl⟩
      · cases h
    · rintro ⟨s', hs', hne, rfl⟩
      cases hs'
      rw [if_pos hne]
  · rename_i hother
    constructor
    · intro h
      cases h
    · rintro ⟨s, hs, -, -⟩
      exact absurd hs (hother s)

theorem mem_loweredAnnotations {js : Json} {key : String} {value : Json} :
    (key, value) ∈ loweredAnnotations lower args js ↔
      key ∈ args.annotationKeys ∧ ∃ s, dig (annotationLocation key) js = some (.str s) ∧
        s ≠ lower s ∧ value = .str (lower s) := by
  simp only [loweredAnnotations, List.mem_filterMap, loweredEntry_eq_some_iff, Prod.mk.injEq]
  constructor
  · rintro ⟨key', hkey', s, hs, hne, rfl, rfl⟩
    exact ⟨hkey', s, hs, hne, rfl⟩
  · rintro ⟨hkey, s, hs, hne, rfl⟩
    exact ⟨key, hkey, s, hs, hne, rfl, rfl⟩

theorem loweredAnnotations_nodup (js : Json) :
    ((loweredAnnotations lower args js).map Prod.fst).Nodup := by
  refine (annotationKeys_nodup args).sublist ?_
  rw [loweredAnnotations]
  induction args.annotationKeys with
  | nil => exact List.Sublist.slnil
  | cons key keys ih =>
    rw [List.filterMap_cons]
    cases hp : loweredEntry lower js key with
    | none => exact ih.cons key
    | some p =>
      obtain ⟨s, -, -, rfl⟩ := loweredEntry_eq_some_iff.mp hp
      exact ih.cons_cons key

/-! ### The patched session -/

theorem get?_metadata_sessionPatch (patches : List (String × Json)) (js : Json) :
    (Json.mergePatch (sessionPatch args patches) js).get? "metadata" =
      some (Json.mergePatch (.obj (metadataPatch args patches))
        ((js.get? "metadata").getD .null)) :=
  Json.get?_mergePatch_single (by simp) js

theorem get?_labels_metadataPatch (patches : List (String × Json)) (metadata : Json) :
    (Json.mergePatch (.obj (metadataPatch args patches)) metadata).get? "labels" =
      some (Json.mergePatch (.obj [(args.schemaVersionLabel, .str "1")])
        ((metadata.get? "labels").getD .null)) := by
  have hne : "labels" ≠ "annotations" := by decide
  have hafter : ∀ p ∈ (if patches = [] then [] else [("annotations", Json.obj patches)]),
      "labels" ≠ p.1 := by
    intro p hp
    split at hp
    · cases hp
    · rw [List.mem_singleton.mp hp]
      exact hne
  change (Json.mergePatch (.obj ([] ++ ("labels", _) :: _)) metadata).get? "labels" = _
  exact Json.get?_mergePatch (by simp) (by simp) hafter metadata

theorem metadataPatch_of_ne_nil {patches : List (String × Json)} (h : patches ≠ []) :
    metadataPatch args patches =
      [("labels", .obj [(args.schemaVersionLabel, .str "1")])] ++
        ("annotations", .obj patches) :: [] := by
  rw [metadataPatch, if_neg h, List.singleton_append]

theorem get?_annotations_metadataPatch {patches : List (String × Json)} (h : patches ≠ [])
    (metadata : Json) :
    (Json.mergePatch (.obj (metadataPatch args patches)) metadata).get? "annotations" =
      some (Json.mergePatch (.obj patches) ((metadata.get? "annotations").getD .null)) := by
  have hne : "annotations" ≠ "labels" := by decide
  have hbefore : ∀ p ∈ [("labels", Json.obj [(args.schemaVersionLabel, .str "1")])],
      "annotations" ≠ p.1 := by
    intro p hp
    rw [List.mem_singleton.mp hp]
    exact hne
  rw [metadataPatch_of_ne_nil h]
  exact Json.get?_mergePatch (by simp) hbefore (by simp) metadata

theorem dig_label_adjustedSession (js : Json) :
    dig (labelLocation args) (adjustedSession lower args js) = some (.str "1") := by
  rw [labelLocation, adjustedSession, Json.dig_cons, get?_metadata_sessionPatch, Option.bind_some,
    Json.dig_cons, get?_labels_metadataPatch, Option.bind_some, Json.dig_cons,
    Json.get?_mergePatch_single (by simp)]
  rfl

/-- Locations besides the metadata, besides labels and annotations, and besides the members of
those two that are written. -/
inductive Besides (args : Args) (patches : List (String × Json)) : List String → Prop where
  | root {key : String} {location : List String} (h : key ≠ "metadata") :
      Besides args patches (key :: location)
  | metadata {key : String} {location : List String} (hlabels : key ≠ "labels")
      (hannotations : key ≠ "annotations") : Besides args patches ("metadata" :: key :: location)
  | label {key : String} {location : List String} (h : key ≠ args.schemaVersionLabel) :
      Besides args patches ("metadata" :: "labels" :: key :: location)
  | annotated {key : String} {location : List String} (h : ∀ p ∈ patches, key ≠ p.1) :
      Besides args patches ("metadata" :: "annotations" :: key :: location)

theorem untouched_sessionPatch {patches : List (String × Json)} {location : List String}
    (h : Besides args patches location) : Json.Untouched location (sessionPatch args patches) := by
  have hne : "annotations" ≠ "labels" := by decide
  have hmember : ∀ location, Json.Untouched location (.obj (metadataPatch args patches)) →
      Json.Untouched ("metadata" :: location) (sessionPatch args patches) := by
    intro location hlocation
    change Json.Untouched _ (.obj ([] ++ ("metadata", _) :: []))
    exact .member (by simp) (by simp) hlocation
  cases h with
  | root hkey => exact .absent (by simp [hkey])
  | metadata hlabels hannotations =>
    apply hmember
    refine .absent ?_
    unfold metadataPatch
    split <;> simp [hlabels, hannotations]
  | label hkey =>
    apply hmember
    change Json.Untouched _ (.obj ([] ++ ("labels", _) :: _))
    refine .member (by simp) ?_ (.absent (by simp [hkey]))
    split <;> simp [hne.symm]
  | annotated hkey =>
    apply hmember
    by_cases hpatches : patches = []
    · refine .absent ?_
      simp [metadataPatch, hpatches, hne]
    · rw [metadataPatch_of_ne_nil hpatches]
      exact .member (by simp [hne]) (by simp) (.absent hkey)

theorem dig_annotation_adjustedSession {js : Json} {key : String} (hkey : key ∈ args.annotationKeys) :
    dig (annotationLocation key) (adjustedSession lower args js) =
      (dig (annotationLocation key) js).map (lowerText lower) := by
  by_cases hlowered : ∃ s, dig (annotationLocation key) js = some (.str s) ∧ s ≠ lower s
  · obtain ⟨s, hs, hne⟩ := hlowered
    have hmem : (key, Json.str (lower s)) ∈ loweredAnnotations lower args js :=
      mem_loweredAnnotations.mpr ⟨hkey, s, hs, hne, rfl⟩
    rw [hs, annotationLocation, adjustedSession, Json.dig_cons, get?_metadata_sessionPatch,
      Option.bind_some, Json.dig_cons, get?_annotations_metadataPatch (List.ne_nil_of_mem hmem),
      Option.bind_some, Json.dig_singleton,
      Json.get?_mergePatch_of_mem (by simp) (loweredAnnotations_nodup js) hmem]
    rfl
  · have hbesides : Besides args (loweredAnnotations lower args js) (annotationLocation key) := by
      refine .annotated fun p hp heq => hlowered ?_
      obtain ⟨-, s, hs, hne, -⟩ := mem_loweredAnnotations.mp hp
      exact ⟨s, heq ▸ hs, hne⟩
    rw [adjustedSession, Json.dig_mergePatch_of_untouched (untouched_sessionPatch hbesides)]
    cases hvalue : dig (annotationLocation key) js with
    | none => rfl
    | some value =>
      cases value with
      | str s =>
        have hs : s = lower s := by
          by_contra hne
          exact hlowered ⟨s, hvalue, hne⟩
        rw [Option.map_some, lowerText, ← hs]
      | _ => rfl

/-- What is separate from every changed location is besides everything that the patch writes. -/
theorem besides_of_separate {js : Json} {location : List String}
    (h : ∀ changed ∈ changedLocations args, ¬ changed <+: location ∧ ¬ location <+: changed) :
    Besides args (loweredAnnotations lower args js) location := by
  have hlabel := h (labelLocation args) List.mem_cons_self
  have hannotation : ∀ key ∈ args.annotationKeys, ¬ annotationLocation key <+: location :=
    fun key hkey => (h _ (List.mem_cons_of_mem _ (List.mem_map_of_mem hkey))).1
  have hannotations : ¬ location <+: ["metadata", "annotations"] := by
    intro hp
    have hkey : args.annotationPrefix ++ "namespace" ∈ args.annotationKeys := by
      simp [Args.annotationKeys]
    refine (h _ (List.mem_cons_of_mem _ (List.mem_map_of_mem hkey))).2 (hp.trans ?_)
    exact List.prefix_append ["metadata", "annotations"] [_]
  match location with
  | [] => exact absurd List.nil_prefix hannotations
  | [key] =>
    by_cases hmetadata : key = "metadata"
    · subst hmetadata
      exact absurd (List.prefix_append ["metadata"] ["annotations"]) hannotations
    · exact .root hmetadata
  | key :: key' :: location =>
    by_cases hmetadata : key = "metadata"
    · subst hmetadata
      by_cases hlabels : key' = "labels"
      · subst hlabels
        match location with
        | [] => exact absurd (List.prefix_append ["metadata", "labels"] [_]) hlabel.2
        | key :: location =>
          refine .label fun heq => hlabel.1 ?_
          rw [heq]
          exact List.prefix_append (labelLocation args) location
      · by_cases hother : key' = "annotations"
        · subst hother
          match location with
          | [] => exact absurd List.prefix_rfl hannotations
          | key :: location =>
            refine .annotated fun p hp heq => ?_
            have hkey := (mem_loweredAnnotations.mp hp).1
            rw [← heq] at hkey
            exact hannotation key hkey (List.prefix_append (annotationLocation key) location)
        · exact .metadata hlabels hother
    · exact .root hmetadata

theorem dig_adjustedSession {js : Json} {location : List String}
    (hseparate : ∀ changed ∈ changedLocations args,
      ¬ changed <+: location ∧ ¬ location <+: changed) :
    dig location (adjustedSession lower args js) = dig location js :=
  Json.dig_mergePatch_of_untouched (untouched_sessionPatch (besides_of_separate hseparate)) js

theorem adjusted_adjustedSession (js : Json) :
    Adjusted lower args js (adjustedSession lower args js) where
  label := dig_label_adjustedSession js
  annotations _ hkey := dig_annotation_adjustedSession hkey
  rest _ hseparate := dig_adjustedSession hseparate

end Adjusted

/-! ### One page of sessions -/

section Runs

variable {lower : String → String} {tokens : ContinueTokens} {args : Args} {limit : Nat}

/-- The objects of which those with one of the names are adjusted. -/
def adjustedObjects (lower : String → String) (args : Args) (names : List String)
    (objects : List (String × Json)) : List (String × Json) :=
  objects.map fun object =>
    if object.1 ∈ names then (object.1, adjustedSession lower args object.2) else object

theorem adjustedObjects_nil (objects : List (String × Json)) :
    adjustedObjects lower args [] objects = objects := by
  simp [adjustedObjects]

theorem mergeInto_adjustedObjects {population : Population} {names : List String}
    {object : String × Json} (hobject : object ∈ population.objects) (hnew : object.1 ∉ names) :
    (adjustedObjects lower args names population.objects).map
        (mergeInto object.1 (sessionPatch args (loweredAnnotations lower args object.2))) =
      adjustedObjects lower args (names ++ [object.1]) population.objects := by
  rw [adjustedObjects, adjustedObjects, List.map_map]
  apply List.map_congr_left
  intro other hother
  by_cases hname : other.1 = object.1
  · have heq : other = object :=
      List.inj_on_of_nodup_map population.nodup hother hobject hname
    subst heq
    simp [hnew, mergeInto, adjustedSession]
  · by_cases hmem : other.1 ∈ names
    · simp [hmem, mergeInto, hname]
    · simp [hmem, mergeInto, hname]

theorem run_patchNamespacedCustomObject {name : String} {body : Json} {api : Api}
    (h : api.objects.any (·.1 = name) = true) :
    run (serve tokens) (patchNamespacedCustomObject name body) api =
      (.ok (), { api with objects := api.objects.map (mergeInto name body) }) := by
  have hserve : serve tokens (.patch name body) api =
      (.ok (), { api with objects := api.objects.map (mergeInto name body) }) := if_pos h
  rw [patchNamespacedCustomObject, run_bind, run_perform, hserve]
  rfl

theorem run_adjustSession {population : Population} (hrun : args.dryRun = false)
    {names : List String} {object : String × Json} (hobject : object ∈ population.objects)
    (hannotated : Annotated object.2) (hnew : object.1 ∉ names) {api : Api}
    (hapi : api.objects = adjustedObjects lower args names population.objects) :
    run (serve tokens) (adjustSession lower args object.2) api =
      (.ok (), { api with
        objects := adjustedObjects lower args (names ++ [object.1]) population.objects }) := by
  have hwell := population.wellFormed object hobject
  obtain ⟨metadata, hmetadata, hname⟩ := Option.bind_eq_some_iff.mp hwell.name
  rw [Json.dig_singleton] at hname
  have hjsName : (getItem "metadata" object.2 >>= getItem "name" >>= text) = .ok object.1 := by
    rw [Notebooks.PyDict.getItem_of_get? hmetadata]
    change (getItem "name" metadata >>= text) = _
    rw [Notebooks.PyDict.getItem_of_get? hname]
    rfl
  have hpresent : api.objects.any (·.1 = object.1) = true := by
    rw [hapi, List.any_eq_true]
    refine ⟨object, ?_, by simp⟩
    rw [adjustedObjects, List.mem_map]
    exact ⟨object, hobject, if_neg hnew⟩
  rw [adjustSession, hjsName, annotationPatches_eq hwell hannotated, hrun]
  change run (serve tokens) (patchNamespacedCustomObject _ _) api = _
  rw [run_patchNamespacedCustomObject hpresent, hapi, mergeInto_adjustedObjects hobject hnew]

theorem run_adjustSessions (tokens : ContinueTokens) {population : Population} (hrun : args.dryRun = false)
    {names : List String} {sessions : List (String × Json)}
    (hsessions : ∀ object ∈ sessions, object ∈ population.objects ∧ Annotated object.2)
    (hnodup : (names ++ sessions.map Prod.fst).Nodup) {api : Api}
    (hapi : api.objects = adjustedObjects lower args names population.objects) :
    run (serve tokens) (adjustSessions lower args (sessions.map Prod.snd)) api =
      (.ok (), { api with
        objects := adjustedObjects lower args (names ++ sessions.map Prod.fst)
          population.objects }) := by
  induction sessions generalizing names api with
  | nil =>
    rw [List.map_nil, List.map_nil, List.append_nil, ← hapi]
    rfl
  | cons object sessions ih =>
    obtain ⟨hobject, hannotated⟩ := hsessions object List.mem_cons_self
    have hassoc : names ++ (object :: sessions).map Prod.fst =
        (names ++ [object.1]) ++ sessions.map Prod.fst := by simp
    have hnew : object.1 ∉ names := by
      rw [hassoc, List.nodup_append, List.nodup_append] at hnodup
      intro hmem
      exact hnodup.1.2.2 _ hmem _ (List.mem_singleton.mpr rfl) rfl
    rw [List.map_cons, adjustSessions,
      run_bind_ok _ (run_adjustSession hrun hobject hannotated hnew hapi), hassoc]
    rw [hassoc] at hnodup
    exact ih (fun object hobject => hsessions object (List.mem_cons_of_mem _ hobject)) hnodup rfl

/-- The list for the token starts a page of the items. -/
def Lists (tokens : ContinueTokens) (args : Args) (limit : Nat) (items : List Json)
    (nextPage : String) (api : Api) : Prop :=
  tokens.list args.labelSelector limit nextPage api = tokens.page limit items api

/-- The state after a page has been listed. -/
def afterList (tokens : ContinueTokens) (limit : Nat) (items : List Json) (api : Api) : Api :=
  (tokens.page limit items api).2

theorem run_adjustPage_eq (lower : String → String) {items : List Json} {nextPage : String} {api : Api}
    (hlist : Lists tokens args limit items nextPage api) :
    run (serve tokens) (adjustPage lower args limit nextPage) api =
      match run (serve tokens) (adjustSessions lower args (firstItems limit items))
        (afterList tokens limit items api) with
      | (.ok _, after) =>
        (.ok (if laterItems limit items = [] then none
          else some (tokens.token (laterItems limit items))), after)
      | (.error e, after) => (.error e, after) := by
  have hreply : run (serve tokens)
      (listNamespacedCustomObject args.labelSelector limit nextPage) api =
        (.ok { items := firstItems limit items,
               continue? := if laterItems limit items = [] then none
                 else some (tokens.token (laterItems limit items)) },
          afterList tokens limit items api) := by
    have hserve : serve tokens (.list args.labelSelector limit nextPage) api =
        tokens.page limit items api := hlist
    rw [listNamespacedCustomObject, run_bind, run_perform, hserve]
    rfl
  rw [adjustPage, run_bind_ok _ hreply, run_bind]
  rcases run (serve tokens) (adjustSessions lower args (firstItems limit items))
    (afterList tokens limit items api) with ⟨e | a, after⟩
  · rfl
  · by_cases hlater : laterItems limit items = []
    · simp [hlater]
    · have htoken := tokens.token_ne (laterItems limit items)
      simp [hlater, htoken]

theorem lists_pending {items : List Json} {api : Api}
    (h : api.pending = some (tokens.token items, items)) :
    Lists tokens args limit items (tokens.token items) api := by
  rw [Lists, ContinueTokens.list, if_neg (tokens.token_ne items), h]
  exact if_pos rfl

theorem pending_afterList {items : List Json} {api : Api} (h : laterItems limit items ≠ []) :
    (afterList tokens limit items api).pending =
      some (tokens.token (laterItems limit items), laterItems limit items) := by
  simp [afterList, ContinueTokens.page, h]

/-! ### All pages -/

/-- The loop is left after all sessions of the snapshot have been adjusted. -/
theorem run_adjustPages {population : Population} (hrun : args.dryRun = false) (rounds : Nat)
    {names : List String} {sessions : List (String × Json)} (hrounds : sessions.length < rounds)
    (hsessions : ∀ object ∈ sessions, object ∈ population.objects ∧ Annotated object.2)
    (hnodup : (names ++ sessions.map Prod.fst).Nodup) {api : Api} {nextPage : String}
    (hapi : api.objects = adjustedObjects lower args names population.objects)
    (hlist : Lists tokens args limit (sessions.map Prod.snd) nextPage api) :
    ∃ after, run (serve tokens) (adjustPages lower args limit rounds nextPage) api =
        (.ok true, after) ∧
      after.objects = adjustedObjects lower args (names ++ sessions.map Prod.fst)
        population.objects := by
  induction rounds generalizing names sessions api nextPage with
  | zero => exact absurd hrounds (Nat.not_lt_zero _)
  | succ rounds ih =>
    have hsplit := firstItems_append_laterItems limit sessions
    have hfirst : ∀ object ∈ firstItems limit sessions,
        object ∈ population.objects ∧ Annotated object.2 := by
      intro object hobject
      apply hsessions
      rw [← hsplit]
      exact List.mem_append_left _ hobject
    rw [← hsplit, List.map_append, ← List.append_assoc] at hnodup
    have hlisted : (afterList tokens limit (sessions.map Prod.snd) api).objects =
        adjustedObjects lower args names population.objects := hapi
    have hpage := run_adjustSessions tokens hrun hfirst (List.nodup_append.mp hnodup).1
      hlisted
    have hround := run_adjustPage_eq lower hlist
    rw [firstItems_map, hpage] at hround
    rw [adjustPages]
    by_cases hlater : laterItems limit sessions = []
    · rw [hlater, List.append_nil] at hsplit
      rw [laterItems_map, hlater] at hround
      refine ⟨_, run_bind_ok _ hround, ?_⟩
      rw [hsplit]
    · have hlater' : laterItems limit (sessions.map Prod.snd) ≠ [] := by
        rw [laterItems_map]
        simpa using hlater
      have hshort := length_laterItems_lt hlater
      have hnames : names ++ sessions.map Prod.fst = names ++
          (firstItems limit sessions).map Prod.fst ++ (laterItems limit sessions).map Prod.fst := by
        rw [List.append_assoc, ← List.map_append, hsplit]
      have hrest : ∀ object ∈ laterItems limit sessions,
          object ∈ population.objects ∧ Annotated object.2 := by
        intro object hobject
        apply hsessions
        rw [← hsplit]
        exact List.mem_append_right _ hobject
      rw [if_neg hlater'] at hround
      rw [run_bind_ok _ hround, hnames]
      refine ih (by omega) hrest hnodup rfl ?_
      rw [← laterItems_map]
      have hpending : (afterList tokens limit (sessions.map Prod.snd) api).pending = _ :=
        pending_afterList hlater'
      exact lists_pending hpending

/-! ### Where a run stops -/

theorem annotated_of_annotationPatches {js : Json} {patches : List (String × Json)}
    (h : annotationPatches lower args js = .ok patches) : Annotated js := by
  rw [annotationPatches, Args.annotationKeys] at h
  obtain ⟨values, hvalues, -⟩ := Results.map_eq_ok_iff.mp h
  rw [List.mapM_cons] at hvalues
  obtain ⟨value, hvalue, -⟩ := Results.bind_eq_ok_iff.mp hvalues
  obtain ⟨metadata, hmetadata, hvalue⟩ := Results.bind_eq_ok_iff.mp hvalue
  obtain ⟨annotations, hannotations, -⟩ := Results.bind_eq_ok_iff.mp hvalue
  rw [Annotated, Json.dig_cons, Notebooks.PyDict.get?_of_getItem hmetadata, Option.bind_some,
    Json.dig_singleton, Notebooks.PyDict.get?_of_getItem hannotations]
  exact Option.some_ne_none annotations

theorem annotated_of_adjustSession {js : Json} {api after : Api}
    (h : run (serve tokens) (adjustSession lower args js) api = (.ok (), after)) :
    Annotated js := by
  rw [adjustSession, run_bind, run_ofExcept] at h
  cases hname : (getItem "metadata" js >>= getItem "name" >>= text) with
  | error e =>
    rw [hname] at h
    cases h
  | ok jsName =>
    rw [hname] at h
    simp only [run_bind, run_ofExcept] at h
    cases hpatches : annotationPatches lower args js with
    | error e =>
      rw [hpatches] at h
      cases h
    | ok patches => exact annotated_of_annotationPatches hpatches

theorem annotated_of_adjustSessions {sessions : List Json} {api after : Api}
    (h : run (serve tokens) (adjustSessions lower args sessions) api = (.ok (), after)) :
    ∀ js ∈ sessions, Annotated js := by
  induction sessions generalizing api with
  | nil => simp
  | cons js sessions ih =>
    rw [adjustSessions, run_bind] at h
    rcases hrun : run (serve tokens) (adjustSession lower args js) api with ⟨e | a, middle⟩
    · rw [hrun] at h
      cases h
    · rw [hrun] at h
      intro other hother
      rcases List.mem_cons.mp hother with rfl | hother
      · exact annotated_of_adjustSession hrun
      · exact ih h other hother

theorem calls_adjustSession (js : Json) :
    (adjustSession lower args js).Calls fun c => ∃ name body, c = .patch name body := by
  refine calls_ofExcept_bind fun jsName _ => calls_ofExcept_bind fun patches _ => ?_
  split
  · trivial
  · refine Calls.bind ((calls_perform _).mpr ⟨jsName, _, rfl⟩) fun reply => ?_
    cases reply <;> trivial

theorem calls_adjustSessions (sessions : List Json) :
    (adjustSessions lower args sessions).Calls fun c => ∃ name body, c = .patch name body := by
  induction sessions with
  | nil => trivial
  | cons js sessions ih => exact (calls_adjustSession js).bind fun _ => ih

/-- The sessions of a page do not change where its snapshot goes on. -/
theorem pending_of_adjustSessions (lower : String → String) (tokens : ContinueTokens)
    (args : Args) (sessions : List Json) (api : Api) :
    (run (serve tokens) (adjustSessions lower args sessions) api).2.pending = api.pending := by
  have htriple : Triple (serve tokens) (fun s => s.pending = api.pending)
      (adjustSessions lower args sessions) (fun _ s => s.pending = api.pending)
      (fun _ s => s.pending = api.pending) := by
    apply (calls_adjustSessions sessions).triple
    rintro c s ⟨name, body, rfl⟩ hs
    change (patch name body s).2.pending = _
    unfold patch
    split <;> exact hs
  exact htriple.state rfl

theorem annotated_of_adjustPages (rounds : Nat) {items : List Json} {api after : Api}
    {nextPage : String} (hlist : Lists tokens args limit items nextPage api)
    (h : run (serve tokens) (adjustPages lower args limit rounds nextPage) api = (.ok true, after)) :
    ∀ js ∈ items, Annotated js := by
  induction rounds generalizing items api nextPage with
  | zero => cases h
  | succ rounds ih =>
    rw [adjustPages, run_bind, run_adjustPage_eq lower hlist] at h
    have hpending := pending_of_adjustSessions lower tokens args (firstItems limit items)
      (afterList tokens limit items api)
    rcases hrun : run (serve tokens) (adjustSessions lower args (firstItems limit items))
      (afterList tokens limit items api) with ⟨e | a, middle⟩
    · rw [hrun] at h
      cases h
    · rw [hrun] at h hpending
      have hfirst := annotated_of_adjustSessions hrun
      have hlater : ∀ js ∈ laterItems limit items, Annotated js := by
        by_cases hlater : laterItems limit items = []
        · simp [hlater]
        · rw [pending_afterList hlater] at hpending
          simp only [if_neg hlater] at h
          exact ih (lists_pending hpending) h
      rw [← firstItems_append_laterItems limit items]
      intro js hjs
      rcases List.mem_append.mp hjs with hjs | hjs
      · exact hfirst js hjs
      · exact hlater js hjs

/-! ### Whole runs -/

/-- The sessions that a run lists. -/
def unlabelledSessions (args : Args) (objects : List (String × Json)) : List (String × Json) :=
  objects.filter fun object => Unlabelled args object

theorem selects_labelSelector (object : String × Json) :
    selects args.labelSelector object.2 = decide (Unlabelled args object) := by
  have hlist : args.labelSelector.toList = '!' :: args.schemaVersionLabel.toList := by
    rw [Args.labelSelector, String.toList_append]
    rfl
  rw [selects, hlist]
  simp only [String.ofList_toList]
  change (dig (labelLocation args) object.2).isNone = decide (dig (labelLocation args) object.2 = none)
  cases dig (labelLocation args) object.2 <;> rfl

theorem lists_first (tokens : ContinueTokens) (args : Args) (limit : Nat) (api : Api) :
    Lists tokens args limit ((unlabelledSessions args api.objects).map Prod.snd) "" api := by
  have hselected : (api.objects.map Prod.snd).filter (selects args.labelSelector) =
      (unlabelledSessions args api.objects).map Prod.snd := by
    rw [List.filter_map, unlabelledSessions]
    congr 2
    funext object
    exact selects_labelSelector object
  rw [Lists, ContinueTokens.list, if_pos rfl, hselected]

theorem completes_of_annotated {population : Population} (hrun : args.dryRun = false)
    (h : ∀ object ∈ population.objects, Unlabelled args object → Annotated object.2) :
    ∃ after, Completes lower tokens args limit population.api after ∧
      after.objects = adjustedObjects lower args
        ((unlabelledSessions args population.objects).map Prod.fst) population.objects := by
  have hsessions : ∀ object ∈ unlabelledSessions args population.objects,
      object ∈ population.objects ∧ Annotated object.2 := by
    intro object hobject
    obtain ⟨hmem, hunlabelled⟩ := List.mem_filter.mp hobject
    exact ⟨hmem, h object hmem (of_decide_eq_true hunlabelled)⟩
  have hnodup : ([] ++ (unlabelledSessions args population.objects).map Prod.fst).Nodup :=
    population.nodup.sublist (List.filter_sublist.map _)
  have hapi : population.api.objects = adjustedObjects lower args [] population.objects :=
    (adjustedObjects_nil _).symm
  obtain ⟨after, hafter, hobjects⟩ := run_adjustPages hrun _ (Nat.lt_succ_self _) hsessions hnodup
    hapi (lists_first tokens args limit population.api)
  exact ⟨after, ⟨_, hafter⟩, hobjects⟩

theorem annotated_of_completes {population : Population} {after : Api}
    (h : Completes lower tokens args limit population.api after) :
    ∀ object ∈ population.objects, Unlabelled args object → Annotated object.2 := by
  obtain ⟨rounds, hrounds⟩ := h
  have hsessions := annotated_of_adjustPages rounds (lists_first tokens args limit population.api) hrounds
  intro object hobject hunlabelled
  exact hsessions object.2
    (List.mem_map_of_mem (List.mem_filter.mpr ⟨hobject, decide_eq_true hunlabelled⟩))

/-- Where every object has the label, nothing is listed. -/
theorem completes_of_labelled {api : Api}
    (h : ∀ object ∈ api.objects, ¬ Unlabelled args object) :
    ∃ after, Completes lower tokens args limit api after ∧ after.objects = api.objects := by
  have hnone : unlabelledSessions args api.objects = [] := by
    rw [unlabelledSessions, List.filter_eq_nil_iff]
    intro object hobject
    simpa using h object hobject
  have hlist : Lists tokens args limit [] "" api := by
    have hfirst := lists_first tokens args limit api
    rwa [hnone] at hfirst
  have hround := run_adjustPage_eq lower hlist
  have hfirst : firstItems limit ([] : List Json) = [] := by simp [firstItems]
  have hlater : laterItems limit ([] : List Json) = [] := by simp [laterItems]
  rw [hfirst, hlater] at hround
  exact ⟨_, ⟨1, run_bind_ok _ hround⟩, rfl⟩

theorem not_unlabelled_of_adjusted {object object' : String × Json}
    (h : Adjusted lower args object.2 object'.2) : ¬ Unlabelled args object' := by
  rw [Unlabelled, h.label]
  exact Option.some_ne_none _

end Runs

/-! ### What a migration is for -/

section Migration

variable (lower : String → String) (tokens : ContinueTokens) (annotationPrefix : String)
variable (limit : Nat)

def actualRun : Args := { annotationPrefix, dryRun := false }

def dryRun : Args := { annotationPrefix, dryRun := true }

/-- Of the objects, only those without the label change. -/
def Migrated (object object' : String × Json) : Prop :=
  object'.1 = object.1 ∧
    if Unlabelled (actualRun annotationPrefix) object then
      Adjusted lower (actualRun annotationPrefix) object.2 object'.2
    else object'.2 = object.2

structure MigratesAll (population : Population) : Prop where
  actual : ∃ after,
    Completes lower tokens (actualRun annotationPrefix) limit population.api after ∧
      List.Forall₂ (Migrated lower annotationPrefix) population.objects after.objects ∧
      ∃ again, Completes lower tokens (actualRun annotationPrefix) limit after again ∧
        again.objects = after.objects
  dry : ∀ rounds,
    (run (serve tokens) (adjustAnnotations lower (dryRun annotationPrefix) limit rounds)
      population.api).2.objects = population.objects

variable {lower annotationPrefix}

theorem migrated_adjustedObjects (population : Population) :
    List.Forall₂ (Migrated lower annotationPrefix) population.objects
      (adjustedObjects lower (actualRun annotationPrefix)
        ((unlabelledSessions (actualRun annotationPrefix) population.objects).map Prod.fst)
        population.objects) := by
  rw [adjustedObjects, List.forall₂_map_right_iff, List.forall₂_same]
  intro object hobject
  have hlisted : object.1 ∈
      (unlabelledSessions (actualRun annotationPrefix) population.objects).map Prod.fst ↔
        Unlabelled (actualRun annotationPrefix) object := by
    constructor
    · intro hmem
      obtain ⟨other, hother, hname⟩ := List.mem_map.mp hmem
      obtain ⟨hother, hunlabelled⟩ := List.mem_filter.mp hother
      have heq := List.inj_on_of_nodup_map population.nodup hother hobject hname
      rw [← heq]
      exact of_decide_eq_true hunlabelled
    · intro hunlabelled
      exact List.mem_map_of_mem (List.mem_filter.mpr ⟨hobject, decide_eq_true hunlabelled⟩)
  unfold Migrated
  by_cases hunlabelled : Unlabelled (actualRun annotationPrefix) object
  · rw [if_pos (hlisted.mpr hunlabelled), if_pos hunlabelled]
    exact ⟨rfl, adjusted_adjustedSession object.2⟩
  · rw [if_neg (mt hlisted.mp hunlabelled), if_neg hunlabelled]
    exact ⟨rfl, rfl⟩

theorem labelled_of_migrated {object object' : String × Json}
    (h : Migrated lower annotationPrefix object object') :
    ¬ Unlabelled (actualRun annotationPrefix) object' := by
  obtain ⟨hname, h⟩ := h
  split at h
  · exact not_unlabelled_of_adjusted h
  · rename_i hlabelled
    rwa [Unlabelled, h]

theorem calls_adjustSessions_dryRun (sessions : List Json) :
    (adjustSessions lower (dryRun annotationPrefix) sessions).Calls fun _ => False := by
  induction sessions with
  | nil => trivial
  | cons js sessions ih =>
    refine Calls.bind ?_ fun _ => ih
    exact calls_ofExcept_bind fun jsName _ => calls_ofExcept_bind fun patches _ => trivial

theorem calls_dryRun (rounds : Nat) (nextPage : String) :
    (adjustPages lower (dryRun annotationPrefix) limit rounds nextPage).Calls
      fun c => ∃ selector limit token, c = .list selector limit token := by
  induction rounds generalizing nextPage with
  | zero => trivial
  | succ rounds ih =>
    have hlist : (listNamespacedCustomObject (dryRun annotationPrefix).labelSelector limit
        nextPage).Calls fun c => ∃ selector limit token, c = .list selector limit token := by
      refine Calls.bind ((calls_perform _).mpr ⟨_, _, _, rfl⟩) fun reply => ?_
      cases reply <;> trivial
    refine Calls.bind (Calls.bind hlist fun jss => Calls.bind ?_ fun _ => trivial) fun next => ?_
    · exact (calls_adjustSessions_dryRun jss.items).mono fun _ h => h.elim
    · cases next with
      | none => trivial
      | some token => exact ih token

theorem objects_dryRun (rounds : Nat) (api : Api) :
    (run (serve tokens) (adjustAnnotations lower (dryRun annotationPrefix) limit rounds)
      api).2.objects = api.objects := by
  have htriple : Triple (serve tokens) (fun s => s.objects = api.objects)
      (adjustAnnotations lower (dryRun annotationPrefix) limit rounds)
      (fun _ s => s.objects = api.objects) (fun _ s => s.objects = api.objects) := by
    apply (calls_dryRun limit rounds "").triple
    rintro c s ⟨selector, limit, token, rfl⟩ hs
    change (tokens.list selector limit token s).2.objects = _
    unfold ContinueTokens.list
    split
    · exact hs
    · split
      · split <;> exact hs
      · exact hs
  exact htriple.state rfl

/-- A run migrates the namespace if and only if every object that it lists has annotations. -/
theorem migratesAll_iff_annotated (population : Population) :
    MigratesAll lower tokens annotationPrefix limit population ↔
      ∀ object ∈ population.objects, Unlabelled (actualRun annotationPrefix) object →
        Annotated object.2 := by
  constructor
  · intro h
    obtain ⟨after, hafter, -⟩ := h.actual
    exact annotated_of_completes hafter
  · intro h
    obtain ⟨after, hafter, hobjects⟩ := completes_of_annotated rfl h
    have hmigrated : List.Forall₂ (Migrated lower annotationPrefix) population.objects
        after.objects := by
      rw [hobjects]
      exact migrated_adjustedObjects population
    have hlabelled : ∀ object ∈ after.objects, ¬ Unlabelled (actualRun annotationPrefix) object := by
      intro object hobject
      obtain ⟨before, -, hbefore⟩ := Results.exists_of_mem_forall2 hmigrated hobject
      exact labelled_of_migrated hbefore
    exact ⟨⟨after, hafter, hmigrated, completes_of_labelled hlabelled⟩,
      fun rounds => objects_dryRun tokens limit rounds population.api⟩

end Migration

/-- One session that has been created without annotations. -/
def bareSession : Population where
  objects := [("anna-demo", .obj [("metadata", .obj [("name", "anna-demo")])])]
  nodup := List.nodup_singleton _
  wellFormed := by
    intro object hobject
    rw [List.mem_singleton.mp hobject]
    exact ⟨rfl, fun annotations hannotations => by cases hannotations⟩

def nextTokens : ContinueTokens where
  token _ := "next"
  token_ne _ := by decide

theorem bareSession_not_migrated :
    ¬ MigratesAll PyText.lower nextTokens "renku.io/" 50 bareSession := by
  intro h
  obtain ⟨after, hafter, -⟩ := h.actual
  exact annotated_of_completes hafter _ List.mem_cons_self (by decide) (by decide)

end RenkuNotebooks.ResourceSchemaMigrations
