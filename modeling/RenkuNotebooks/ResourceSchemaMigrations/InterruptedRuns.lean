import RenkuNotebooks.Foundation.MergePatches
import RenkuNotebooks.ResourceSchemaMigrations.AdjustedAnnotations

/-!
# Interrupted runs of a migration

The migration runs when the first pod of the service starts, and again whenever that pod starts
again, while the other pods go on creating, changing and deleting sessions. A run may be cut off at
any of its calls. What such runs leave behind is compared with the sessions as they would be if
no migration had ever run.
-/

namespace RenkuNotebooks.ResourceSchemaMigrations

open Prog
open Notebooks (PyError)
open Notebooks.PyDict (getItem text)
open Json (dig)

/-! ### A disturbed API -/

/-- What happens to sessions besides the migration. -/
inductive Happening where
  | created (name : String) (js : Json)
  | deleted (name : String)
  | patched (name : String) (body : Json)

/-- The API refuses a second object of a name. -/
def Happening.on : Happening → List (String × Json) → List (String × Json)
  | .created name js, objects =>
    if name ∈ objects.map Prod.fst then objects else objects ++ [(name, js)]
  | .deleted name, objects => objects.filter (·.1 ≠ name)
  | .patched name body, objects => objects.map (mergeInto name body)

/-- A call is answered, does not reach the API, or is served without an answer getting back. -/
inductive Fate where
  | answered
  | refused
  | unanswered
  deriving DecidableEq, Repr

/-- What happens before a call, and what becomes of the call. -/
structure Disturbance where
  happenings : List Happening
  fate : Fate

/-- The API, and the sessions as they would be if no migration had ever run. -/
structure Scene where
  api : Api
  unmigrated : List (String × Json)

namespace Scene

def happened (scene : Scene) (happening : Happening) : Scene where
  api := { scene.api with objects := happening.on scene.api.objects }
  unmigrated := happening.on scene.unmigrated

def after (scene : Scene) (happenings : List Happening) : Scene := happenings.foldl happened scene

def served (tokens : ContinueTokens) (c : Call) (scene : Scene) : Scene :=
  { scene with api := (serve tokens c scene.api).2 }

end Scene

def unavailable : (c : Call) → Reply c
  | .list .. => .error 503
  | .patch .. => .error 503

/-- Once all disturbances have happened, no call gets through any more. -/
def serveDisturbed (tokens : ContinueTokens) (c : Call) :
    Scene × List Disturbance → Reply c × Scene × List Disturbance
  | (scene, []) => (unavailable c, scene, [])
  | (scene, disturbance :: later) =>
    let scene' := scene.after disturbance.happenings
    match disturbance.fate with
    | .answered => ((serve tokens c scene'.api).1, scene'.served tokens c, later)
    | .refused => (unavailable c, scene', later)
    | .unanswered => (unavailable c, scene'.served tokens c, later)

section Runs

variable (lower : String → String) (tokens : ContinueTokens) (args : Args) (limit : Nat)

/-- Every round of the loop makes a call, so that the run ends when no call gets through. -/
def interruptedRun (scene : Scene) (disturbances : List Disturbance) : Scene :=
  (run (serveDisturbed tokens) (adjustAnnotations lower args limit (disturbances.length + 1))
    (scene, disturbances)).2.1

def interruptedRuns (scene : Scene) (runs : List (List Disturbance)) : Scene :=
  runs.foldl (interruptedRun lower tokens args limit) scene

end Runs

/-! ### Sessions that can be migrated -/

section Sessions

variable (lower : String → String) (args : Args)

-- the annotations of the project by the name of a session
variable (project : String → String → Option Json)

/-- An object that a run can migrate. The name of a session is made from its project, so that
sessions of one name agree in the annotations of the project. -/
structure Migratable (object : String × Json) : Prop where
  wellFormed : WellFormed object
  unlabelled : Unlabelled args object
  annotated : Annotated object.2
  project : ∀ key ∈ args.annotationKeys,
    dig (annotationLocation key) object.2 = project object.1 key

/-- The service creates sessions without the label, and nothing but the migration writes the label
or the two annotations. -/
def Possible : Happening → Prop
  | .created name js => Migratable args project (name, js)
  | .deleted _ => True
  | .patched _ body =>
    (∀ location ∈ changedLocations args, Json.Untouched location body) ∧
      ∀ object, WellFormed object → WellFormed (object.1, Json.mergePatch body object.2)

/-- An object and the one that would be there without the migration: the migration has adjusted it
or not, and nothing between the two. -/
structure Halfway (object object' : String × Json) : Prop where
  name : object'.1 = object.1
  wellFormed : WellFormed object'
  adjusted : object'.2 = object.2 ∨
    Unlabelled args object ∧ Adjusted lower args object.2 object'.2

/-- What a page of sessions shows. -/
def Listed (unmigrated : List (String × Json)) (js : Json) : Prop :=
  ∃ name, Migratable args project (name, js) ∧
    ∀ object ∈ unmigrated, object.1 = name → Unlabelled args object

structure Sound (scene : Scene) : Prop where
  nodup : (scene.unmigrated.map Prod.fst).Nodup
  wellFormed : ∀ object ∈ scene.unmigrated, WellFormed object
  migratable : ∀ object ∈ scene.unmigrated, Unlabelled args object → Migratable args project object
  halfway : List.Forall₂ (Halfway lower args) scene.unmigrated scene.api.objects
  pending : ∀ token items, scene.api.pending = some (token, items) →
    ∀ js ∈ items, Listed args project scene.unmigrated js

/-- A sound scene, and sessions that are still to be adjusted. -/
structure Underway (sessions : List Json) (scene : Scene) : Prop where
  sound : Sound lower args project scene
  listed : ∀ js ∈ sessions, Listed args project scene.unmigrated js

end Sessions

section Soundness

variable {lower : String → String} {args : Args} {project : String → String → Option Json}
variable {object object' : String × Json}

/-! ### Other patches -/

theorem annotationKey_mem (args : Args) : args.annotationPrefix ++ "namespace" ∈ args.annotationKeys := by
  simp [Args.annotationKeys]

section Patched

variable {body : Json}

theorem unlabelled_patched_iff
    (hbody : ∀ location ∈ changedLocations args, Json.Untouched location body) :
    Unlabelled args (object.1, Json.mergePatch body object.2) ↔ Unlabelled args object := by
  have hlabel := hbody (labelLocation args) List.mem_cons_self
  unfold Unlabelled
  rw [Json.dig_mergePatch_of_untouched hlabel]

theorem annotated_untouched
    (hbody : ∀ location ∈ changedLocations args, Json.Untouched location body) {key : String}
    (hkey : key ∈ args.annotationKeys) : Json.Untouched (annotationLocation key) body :=
  hbody _ (List.mem_cons_of_mem _ (List.mem_map_of_mem hkey))

theorem Migratable.patched (h : Migratable args project object)
    (hbody : ∀ location ∈ changedLocations args, Json.Untouched location body)
    (hwell : WellFormed (object.1, Json.mergePatch body object.2)) :
    Migratable args project (object.1, Json.mergePatch body object.2) where
  wellFormed := hwell
  unlabelled := (unlabelled_patched_iff hbody).mpr h.unlabelled
  annotated := by
    have huntouched := annotated_untouched hbody (annotationKey_mem args)
    exact @Json.dig_ne_none_of_untouched ["metadata", "annotations"] _ _ _ huntouched h.annotated
  project key hkey := by
    rw [Json.dig_mergePatch_of_untouched (annotated_untouched hbody hkey)]
    exact h.project key hkey

theorem Adjusted.patched {js js' : Json} (h : Adjusted lower args js js')
    (hbody : ∀ location ∈ changedLocations args, Json.Untouched location body) :
    Adjusted lower args (Json.mergePatch body js) (Json.mergePatch body js') where
  label := by
    rw [Json.dig_mergePatch_of_untouched (hbody _ List.mem_cons_self)]
    exact h.label
  annotations key hkey := by
    have huntouched := annotated_untouched hbody hkey
    rw [Json.dig_mergePatch_of_untouched huntouched, Json.dig_mergePatch_of_untouched huntouched]
    exact h.annotations key hkey
  rest := by
    have hagree : Json.AgreeApart (· ∈ changedLocations args) js' js := h.rest
    exact hagree.mergePatch body

theorem Halfway.patched (h : Halfway lower args object object')
    (hbody : ∀ location ∈ changedLocations args, Json.Untouched location body)
    (hwell : WellFormed (object'.1, Json.mergePatch body object'.2)) (name : String) :
    Halfway lower args (mergeInto name body object) (mergeInto name body object') := by
  unfold mergeInto
  rw [h.name] at hwell ⊢
  split
  · refine ⟨rfl, hwell, ?_⟩
    rcases h.adjusted with hsame | ⟨hunlabelled, hadjusted⟩
    · left
      rw [hsame]
    · exact .inr ⟨(unlabelled_patched_iff hbody).mpr hunlabelled, hadjusted.patched hbody⟩
  · exact ⟨h.name, h.wellFormed, h.adjusted⟩

end Patched

/-! ### The patch of a listed session -/

theorem dig_name_sessionPatch (patches : List (String × Json)) (js : Json) :
    dig ["metadata", "name"] (Json.mergePatch (sessionPatch args patches) js) =
      dig ["metadata", "name"] js := by
  have hlabels : "name" ≠ "labels" := by decide
  have hannotations : "name" ≠ "annotations" := by decide
  exact Json.dig_mergePatch_of_untouched
    (untouched_sessionPatch (.metadata hlabels hannotations)) js

theorem dig_annotations_sessionPatch_nil (js : Json) :
    dig ["metadata", "annotations"] (Json.mergePatch (sessionPatch args []) js) =
      dig ["metadata", "annotations"] js := by
  have hne : "annotations" ≠ "labels" := by decide
  apply Json.dig_mergePatch_of_untouched
  change Json.Untouched _ (.obj ([] ++ ("metadata", .obj (metadataPatch args [])) :: []))
  exact .member (by simp) (by simp) (.absent (by simp [metadataPatch, hne]))

theorem loweredAnnotations_texts {js : Json} {p : String × Json}
    (hp : p ∈ loweredAnnotations lower args js) : ∃ s, p.2 = .str s := by
  obtain ⟨-, s, -, -, hvalue⟩ := mem_loweredAnnotations.mp hp
  exact ⟨_, hvalue⟩

/-- The patch of a session annotates with texts only. -/
theorem WellFormed.sessionPatch (h : WellFormed object) (js : Json) :
    WellFormed (object.1,
      Json.mergePatch (sessionPatch args (loweredAnnotations lower args js)) object.2) where
  name := by
    rw [dig_name_sessionPatch]
    exact h.name
  annotations annotations hannotations := by
    by_cases hpatches : loweredAnnotations lower args js = []
    · rw [hpatches, dig_annotations_sessionPatch_nil] at hannotations
      exact h.annotations annotations hannotations
    · rw [Json.dig_cons, get?_metadata_sessionPatch, Option.bind_some, Json.dig_singleton,
        get?_annotations_metadataPatch hpatches] at hannotations
      cases hannotations
      rw [Json.mergePatch]
      refine ⟨_, rfl, ?_⟩
      intro key value hvalue
      rcases Json.text_or_kept_of_mergeMembers (fun _ => loweredAnnotations_texts) hvalue with
        htext | hkept
      · exact htext
      · have hdig : dig (["metadata", "annotations"] ++ [key]) object.2 = some value := by
          rw [List.cons_append, Json.dig_cons, List.cons_append, ← Json.dig_getD_null,
            Json.dig_cons, List.nil_append, ← Json.dig_getD_null, Json.dig_singleton,
            ← Json.getMember_membersOf]
          exact hkept
        rw [Json.dig_append] at hdig
        obtain ⟨kept, hkept, hmember⟩ := Option.bind_eq_some_iff.mp hdig
        obtain ⟨ms, rfl, htexts⟩ := h.annotations kept hkept
        rw [Json.dig_singleton] at hmember
        exact htexts key value hmember

/-- The patch made from one session of a name adjusts every session of the name, also one that has
been adjusted before. -/
theorem Halfway.adjusted_of_migratable {js : Json} (h : Halfway lower args object object')
    (hobject : Migratable args project object) (hjs : Migratable args project (object.1, js)) :
    Adjusted lower args object.2
      (Json.mergePatch (sessionPatch args (loweredAnnotations lower args js)) object'.2) where
  label := by
    rw [labelLocation, Json.dig_cons, get?_metadata_sessionPatch, Option.bind_some, Json.dig_cons,
      get?_labels_metadataPatch, Option.bind_some, Json.dig_cons,
      Json.get?_mergePatch_single (by simp)]
    rfl
  annotations key hkey := by
    have hsame : dig (annotationLocation key) js = dig (annotationLocation key) object.2 :=
      (hjs.project key hkey).trans (hobject.project key hkey).symm
    by_cases hlowered : ∃ s, dig (annotationLocation key) js = some (.str s) ∧ s ≠ lower s
    · obtain ⟨s, hs, hne⟩ := hlowered
      have hmem : (key, Json.str (lower s)) ∈ loweredAnnotations lower args js :=
        mem_loweredAnnotations.mpr ⟨hkey, s, hs, hne, rfl⟩
      rw [← hsame, hs, annotationLocation, Json.dig_cons, get?_metadata_sessionPatch,
        Option.bind_some, Json.dig_cons, get?_annotations_metadataPatch (List.ne_nil_of_mem hmem),
        Option.bind_some, Json.dig_singleton,
        Json.get?_mergePatch_of_mem (by simp) (loweredAnnotations_nodup js) hmem]
      rfl
    · have hbesides : Besides args (loweredAnnotations lower args js) (annotationLocation key) := by
        refine .annotated fun p hp heq => hlowered ?_
        obtain ⟨-, s, hs, hne, -⟩ := mem_loweredAnnotations.mp hp
        exact ⟨s, heq ▸ hs, hne⟩
      have hfixed : (dig (annotationLocation key) object.2).map (lowerText lower) =
          dig (annotationLocation key) object.2 := by
        rw [hsame] at hlowered
        cases hvalue : dig (annotationLocation key) object.2 with
        | none => rfl
        | some value =>
          cases value with
          | str s =>
            have hs : s = lower s := by
              by_contra hne
              exact hlowered ⟨s, hvalue, hne⟩
            rw [Option.map_some, lowerText, ← hs]
          | _ => rfl
      rw [Json.dig_mergePatch_of_untouched (untouched_sessionPatch hbesides)]
      rcases h.adjusted with heq | ⟨-, hadjusted⟩
      · rw [heq, hfixed]
      · exact hadjusted.annotations key hkey
  rest location hseparate := by
    rw [Json.dig_mergePatch_of_untouched (untouched_sessionPatch (besides_of_separate hseparate))]
    rcases h.adjusted with heq | ⟨-, hadjusted⟩
    · rw [heq]
    · exact hadjusted.rest location hseparate

theorem Halfway.adjust {js : Json} {name : String} (h : Halfway lower args object object')
    (hobject : object.1 = name → Migratable args project object)
    (hjs : Migratable args project (name, js)) :
    Halfway lower args object
      (mergeInto name (sessionPatch args (loweredAnnotations lower args js)) object') := by
  unfold mergeInto
  split
  · rename_i hname
    obtain rfl := h.name.symm.trans hname
    have hmigratable := hobject rfl
    exact ⟨h.name, h.wellFormed.sessionPatch js,
      .inr ⟨hmigratable.unlabelled, h.adjusted_of_migratable hmigratable hjs⟩⟩
  · exact h

/-! ### What happens besides -/

section Happened

variable {scene : Scene} {happening : Happening}

theorem mergeInto_fst (name : String) (body : Json) (object : String × Json) :
    (mergeInto name body object).1 = object.1 := by
  unfold mergeInto
  split <;> rfl

theorem map_fst_mergeInto (name : String) (body : Json) (objects : List (String × Json)) :
    (objects.map (mergeInto name body)).map Prod.fst = objects.map Prod.fst := by
  rw [List.map_map]
  exact List.map_congr_left fun object _ => mergeInto_fst name body object

theorem names_eq {objects objects' : List (String × Json)}
    (h : List.Forall₂ (Halfway lower args) objects objects') :
    objects'.map Prod.fst = objects.map Prod.fst := by
  induction h with
  | nil => rfl
  | cons hhead _ ih => rw [List.map_cons, List.map_cons, hhead.name, ih]

theorem Halfway.refl (h : WellFormed object) : Halfway lower args object object :=
  ⟨rfl, h, .inl rfl⟩

theorem Listed.happened {unmigrated : List (String × Json)} {js : Json}
    (h : Listed args project unmigrated js) (hpossible : Possible args project happening) :
    Listed args project (happening.on unmigrated) js := by
  obtain ⟨name, hjs, hunlabelled⟩ := h
  refine ⟨name, hjs, ?_⟩
  intro object hobject hname
  cases happening with
  | created name' js' =>
    dsimp only [Happening.on] at hobject
    split at hobject
    · exact hunlabelled object hobject hname
    · rcases List.mem_append.mp hobject with hold | hnew
      · exact hunlabelled object hold hname
      · rw [List.mem_singleton.mp hnew]
        exact hpossible.unlabelled
  | deleted name' => exact hunlabelled object (List.mem_filter.mp hobject).1 hname
  | patched name' body =>
    obtain ⟨old, hold, rfl⟩ := List.mem_map.mp hobject
    rw [mergeInto_fst] at hname
    have hunlabelled := hunlabelled old hold hname
    unfold mergeInto
    split
    · exact (unlabelled_patched_iff hpossible.1).mpr hunlabelled
    · exact hunlabelled

theorem Sound.happened (h : Sound lower args project scene)
    (hpossible : Possible args project happening) :
    Sound lower args project (scene.happened happening) := by
  have hpending : ∀ token items, (scene.happened happening).api.pending = some (token, items) →
      ∀ js ∈ items, Listed args project (scene.happened happening).unmigrated js :=
    fun token items hsome js hjs => (h.pending token items hsome js hjs).happened hpossible
  have hnames := names_eq h.halfway
  cases happening with
  | created name js =>
    by_cases hexists : name ∈ scene.unmigrated.map Prod.fst
    · have hexists' := hexists
      rw [← hnames] at hexists'
      have hsame : scene.happened (.created name js) = scene := by
        simp only [Scene.happened, Happening.on, if_pos hexists, if_pos hexists']
      rw [hsame]
      exact h
    · have hexists' := hexists
      rw [← hnames] at hexists'
      have hunmigrated : (scene.happened (.created name js)).unmigrated =
          scene.unmigrated ++ [(name, js)] := if_neg hexists
      have hobjects : (scene.happened (.created name js)).api.objects =
          scene.api.objects ++ [(name, js)] := if_neg hexists'
      have hmem : ∀ object ∈ scene.unmigrated ++ [(name, js)],
          object ∈ scene.unmigrated ∨ object = (name, js) := by
        intro object hobject
        simpa using hobject
      refine ⟨?_, ?_, ?_, ?_, hpending⟩
      · rw [hunmigrated, List.map_append, List.map_singleton]
        have hconcat := h.nodup.concat hexists
        rwa [List.concat_eq_append] at hconcat
      · rw [hunmigrated]
        intro object hobject
        rcases hmem object hobject with hold | rfl
        · exact h.wellFormed object hold
        · exact hpossible.wellFormed
      · rw [hunmigrated]
        intro object hobject hunlabelled
        rcases hmem object hobject with hold | rfl
        · exact h.migratable object hold hunlabelled
        · exact hpossible
      · rw [hunmigrated, hobjects]
        exact List.rel_append h.halfway (.cons (Halfway.refl hpossible.wellFormed) .nil)
  | deleted name =>
    refine ⟨?_, ?_, ?_, ?_, hpending⟩
    · exact h.nodup.sublist (List.filter_sublist.map _)
    · exact fun object hobject => h.wellFormed object (List.mem_filter.mp hobject).1
    · exact fun object hobject => h.migratable object (List.mem_filter.mp hobject).1
    · refine List.rel_filter ?_ h.halfway
      intro object object' hhalfway
      simp only [hhalfway.name]
  | patched name body =>
    obtain ⟨hbody, hwell⟩ := hpossible
    have hmem : ∀ object ∈ (scene.happened (.patched name body)).unmigrated,
        ∃ old ∈ scene.unmigrated, mergeInto name body old = object :=
      fun object hobject => List.mem_map.mp hobject
    refine ⟨?_, ?_, ?_, ?_, hpending⟩
    · change ((scene.unmigrated.map (mergeInto name body)).map Prod.fst).Nodup
      rw [map_fst_mergeInto]
      exact h.nodup
    · intro object hobject
      obtain ⟨old, hold, rfl⟩ := hmem object hobject
      unfold mergeInto
      split
      · exact hwell old (h.wellFormed old hold)
      · exact h.wellFormed old hold
    · intro object hobject hunlabelled
      obtain ⟨old, hold, rfl⟩ := hmem object hobject
      unfold mergeInto at hunlabelled ⊢
      split
      · rename_i hname
        rw [if_pos hname] at hunlabelled
        have hmigratable := h.migratable old hold ((unlabelled_patched_iff hbody).mp hunlabelled)
        exact hmigratable.patched hbody (hwell old hmigratable.wellFormed)
      · rename_i hname
        rw [if_neg hname] at hunlabelled
        exact h.migratable old hold hunlabelled
    · refine List.rel_map ?_ h.halfway
      intro object object' hhalfway
      exact hhalfway.patched hbody (hwell object' hhalfway.wellFormed) name

theorem Underway.happened {sessions : List Json} (h : Underway lower args project sessions scene)
    (hpossible : Possible args project happening) :
    Underway lower args project sessions (scene.happened happening) where
  sound := h.sound.happened hpossible
  listed js hjs := (h.listed js hjs).happened hpossible

theorem Underway.after {sessions : List Json} {happenings : List Happening}
    (h : Underway lower args project sessions scene)
    (hpossible : ∀ happening ∈ happenings, Possible args project happening) :
    Underway lower args project sessions (scene.after happenings) := by
  induction happenings generalizing scene with
  | nil => exact h
  | cons happening happenings ih =>
    exact ih (h.happened (hpossible happening List.mem_cons_self))
      fun later hlater => hpossible later (List.mem_cons_of_mem _ hlater)

end Happened

/-! ### The calls of a run -/

section Calls

variable {tokens : ContinueTokens} {limit : Nat} {scene : Scene} {sessions : List Json}

theorem Sound.adjust {name : String} {js : Json} (h : Sound lower args project scene)
    (hjs : Migratable args project (name, js))
    (hunlabelled : ∀ object ∈ scene.unmigrated, object.1 = name → Unlabelled args object) :
    Sound lower args project (scene.served tokens
      (.patch name (sessionPatch args (loweredAnnotations lower args js)))) := by
  have hobjects : List.Forall₂ (Halfway lower args) scene.unmigrated (scene.api.objects.map
      (mergeInto name (sessionPatch args (loweredAnnotations lower args js)))) := by
    have hmigratable : ∀ object ∈ scene.unmigrated,
        object.1 = name → Migratable args project object :=
      fun object hobject hname => h.migratable object hobject (hunlabelled object hobject hname)
    have hboth := (List.forall₂_and_left _ _).mpr ⟨hmigratable, h.halfway⟩
    rw [List.forall₂_map_right_iff]
    exact hboth.imp fun object object' hpair => hpair.2.adjust hpair.1 hjs
  unfold Scene.served
  dsimp only [serve, patch]
  split
  · exact ⟨h.nodup, h.wellFormed, h.migratable, hobjects, h.pending⟩
  · exact h

theorem Sound.listed (h : Sound lower args project scene) {js : Json}
    (hjs : js ∈ (scene.api.objects.map Prod.snd).filter (selects args.labelSelector)) :
    Listed args project scene.unmigrated js := by
  obtain ⟨hmem, hselected⟩ := List.mem_filter.mp hjs
  obtain ⟨object', hobject', rfl⟩ := List.mem_map.mp hmem
  obtain ⟨object, hobject, hhalfway⟩ := Results.exists_of_mem_forall2 h.halfway hobject'
  rw [selects_labelSelector] at hselected
  have hunlabelled : Unlabelled args object' := of_decide_eq_true hselected
  rcases hhalfway.adjusted with hsame | ⟨-, hadjusted⟩
  · have hunlabelled' : Unlabelled args object := by
      unfold Unlabelled at hunlabelled ⊢
      rwa [← hsame]
    refine ⟨object.1, ?_, ?_⟩
    · rw [hsame]
      exact h.migratable object hobject hunlabelled'
    · intro other hother hname
      rw [List.inj_on_of_nodup_map h.nodup hother hobject hname]
      exact hunlabelled'
  · exact absurd hunlabelled (@not_unlabelled_of_adjusted lower args object object' hadjusted)

def shown : Except Nat Page → List Json
  | .ok page => page.items
  | .error _ => []

theorem Sound.page {items : List Json} (h : Sound lower args project scene)
    (hitems : ∀ js ∈ items, Listed args project scene.unmigrated js) :
    Underway lower args project (shown (tokens.page limit items scene.api).1)
      { scene with api := (tokens.page limit items scene.api).2 } := by
  have hmem : ∀ js ∈ firstItems limit items ++ laterItems limit items, js ∈ items := by
    rw [firstItems_append_laterItems]
    exact fun _ hjs => hjs
  refine ⟨⟨h.nodup, h.wellFormed, h.migratable, h.halfway, ?_⟩, ?_⟩
  · intro token later hpending js hjs
    obtain ⟨next, -, hnext⟩ := Option.map_eq_some_iff.mp hpending
    cases hnext
    exact hitems js (hmem js (List.mem_append_right _ hjs))
  · exact fun js hjs => hitems js (hmem js (List.mem_append_left _ hjs))

theorem Sound.list (h : Sound lower args project scene) (continue_ : String) :
    Underway lower args project
      (shown (tokens.list args.labelSelector limit continue_ scene.api).1)
      (scene.served tokens (.list args.labelSelector limit continue_)) := by
  unfold Scene.served
  dsimp only [serve]
  unfold ContinueTokens.list
  split
  · exact h.page fun js hjs => h.listed hjs
  · cases hpending : scene.api.pending with
    | none => exact ⟨h, by simp [shown]⟩
    | some snapshot =>
      obtain ⟨token, items⟩ := snapshot
      dsimp only
      split
      · exact h.page fun js hjs => h.pending token items hpending js hjs
      · exact ⟨h, by simp [shown]⟩

/-! ### A disturbed call -/

def Safe (args : Args) (project : String → String → Option Json) (J : Scene → Prop)
    (s : Scene × List Disturbance) : Prop :=
  J s.1 ∧ ∀ disturbance ∈ s.2, ∀ happening ∈ disturbance.happenings,
    Possible args project happening

/-- What holds after a call that is answered, and without the answer, holds whatever disturbs it. -/
theorem safe_serveDisturbed {c : Call} {K : Reply c → Scene → Prop}
    (hserved : ∀ scene, Underway lower args project sessions scene →
      K (serve tokens c scene.api).1 (scene.served tokens c))
    (hrefused : ∀ scene, Underway lower args project sessions scene → K (unavailable c) scene)
    (hunanswered : ∀ reply scene, K reply scene → K (unavailable c) scene)
    {s : Scene × List Disturbance} (hs : Safe args project (Underway lower args project sessions) s) :
    Safe args project (K (serveDisturbed tokens c s).1) (serveDisturbed tokens c s).2 := by
  obtain ⟨scene, disturbances⟩ := s
  obtain ⟨hunderway, hpossible⟩ := hs
  cases disturbances with
  | nil => exact ⟨hrefused scene hunderway, hpossible⟩
  | cons disturbance later =>
    have hafter := hunderway.after (hpossible disturbance List.mem_cons_self)
    have hlater : ∀ d ∈ later, ∀ happening ∈ d.happenings, Possible args project happening :=
      fun d hd => hpossible d (List.mem_cons_of_mem _ hd)
    obtain ⟨happenings, fate⟩ := disturbance
    cases fate with
    | answered => exact ⟨hserved _ hafter, hlater⟩
    | refused => exact ⟨hrefused _ hafter, hlater⟩
    | unanswered => exact ⟨hunanswered _ _ (hserved _ hafter), hlater⟩

/-! ### A disturbed run -/

theorem Underway.mono {sessions' : List Json} (h : Underway lower args project sessions scene)
    (hsub : ∀ js ∈ sessions', js ∈ sessions) : Underway lower args project sessions' scene :=
  ⟨h.sound, fun js hjs => h.listed js (hsub js hjs)⟩

theorem Safe.mono {J J' : Scene → Prop} {s : Scene × List Disturbance} (h : Safe args project J s)
    (hmono : ∀ scene, J scene → J' scene) : Safe args project J' s :=
  ⟨hmono s.1 h.1, h.2⟩

theorem triple_raiseApi {α : Type} {J : Scene × List Disturbance → Prop} (reply : Except Nat α) :
    Triple (serveDisturbed tokens) J (raiseApi reply) (fun _ => J) (fun _ => J) := by
  cases reply with
  | error status => exact triple_raise fun _ h => h
  | ok a => exact triple_ret fun _ h => h

/-- What is to be done with a session that stands on a page. -/
theorem adjustSession_eq {name : String} {js : Json} (hactual : args.dryRun = false)
    (hjs : Migratable args project (name, js)) :
    adjustSession lower args js =
      patchNamespacedCustomObject name (sessionPatch args (loweredAnnotations lower args js)) := by
  have hwell := hjs.wellFormed
  obtain ⟨metadata, hmetadata, hname⟩ := Option.bind_eq_some_iff.mp hwell.name
  rw [Json.dig_singleton] at hname
  have hjsName : (getItem "metadata" js >>= getItem "name" >>= text) = .ok name := by
    rw [Notebooks.PyDict.getItem_of_get? hmetadata]
    change (getItem "name" metadata >>= text) = _
    rw [Notebooks.PyDict.getItem_of_get? hname]
    rfl
  have hpatches : annotationPatches lower args js = .ok (loweredAnnotations lower args js) :=
    annotationPatches_eq hwell hjs.annotated
  rw [adjustSession, hjsName, hpatches, hactual]
  rfl

theorem triple_adjustSession (hactual : args.dryRun = false) (js : Json) :
    Triple (serveDisturbed tokens) (Safe args project (Underway lower args project (js :: sessions)))
      (adjustSession lower args js)
      (fun _ => Safe args project (Underway lower args project sessions))
      (fun _ => Safe args project (Underway lower args project sessions)) := by
  rintro s hs
  obtain ⟨name, hjs, -⟩ := hs.1.listed js List.mem_cons_self
  rw [adjustSession_eq hactual hjs]
  have hpatch : Triple (serveDisturbed tokens)
      (Safe args project (Underway lower args project (js :: sessions)))
      (perform (Call.patch name (sessionPatch args (loweredAnnotations lower args js))))
      (fun _ => Safe args project (Underway lower args project sessions))
      (fun (_ : PyError) => Safe args project (Underway lower args project sessions)) := by
    apply triple_perform
    intro s hs
    have hrest : ∀ js' ∈ sessions, js' ∈ js :: sessions := fun _ h => List.mem_cons_of_mem _ h
    apply safe_serveDisturbed (K := fun _ => Underway lower args project sessions) _ _ _ hs
    · intro scene hscene
      obtain ⟨name', hjs', hunlabelled⟩ := hscene.listed js List.mem_cons_self
      have hname : name' = name := by
        have hdig := hjs'.wellFormed.name.symm.trans hjs.wellFormed.name
        exact Json.str.inj (Option.some.inj hdig)
      subst hname
      exact ⟨hscene.sound.adjust hjs hunlabelled, (hscene.mono hrest).listed⟩
    · exact fun scene hscene => hscene.mono hrest
    · exact fun _ _ h => h
  exact hpatch.bind _ (fun reply => triple_raiseApi reply) s hs

theorem triple_adjustSessions (hactual : args.dryRun = false) (sessions : List Json) :
    Triple (serveDisturbed tokens) (Safe args project (Underway lower args project sessions))
      (adjustSessions lower args sessions)
      (fun _ => Safe args project (Sound lower args project))
      (fun _ => Safe args project (Sound lower args project)) := by
  induction sessions with
  | nil => exact triple_ret fun _ h => h.mono fun _ hscene => hscene.sound
  | cons js sessions ih =>
    have hhead : Triple (serveDisturbed tokens)
        (Safe args project (Underway lower args project (js :: sessions)))
        (adjustSession lower args js)
        (fun _ => Safe args project (Underway lower args project sessions))
        (fun _ => Safe args project (Sound lower args project)) :=
      (triple_adjustSession hactual js).weaken (fun _ h => h) (fun _ _ h => h)
        fun _ _ h => h.mono fun _ hscene => hscene.sound
    exact hhead.bind _ fun _ => ih

theorem triple_adjustPage (hactual : args.dryRun = false) (nextPage : String) :
    Triple (serveDisturbed tokens) (Safe args project (Sound lower args project))
      (adjustPage lower args limit nextPage)
      (fun _ => Safe args project (Sound lower args project))
      (fun _ => Safe args project (Sound lower args project)) := by
  have hlist : Triple (serveDisturbed tokens) (Safe args project (Sound lower args project))
      (perform (Call.list args.labelSelector limit nextPage))
      (fun reply => Safe args project (Underway lower args project (shown reply)))
      (fun (_ : PyError) => Safe args project (Sound lower args project)) := by
    apply triple_perform
    intro s hs
    have hs' : Safe args project (Underway lower args project []) s :=
      hs.mono fun scene hscene => ⟨hscene, by simp⟩
    apply safe_serveDisturbed (c := .list args.labelSelector limit nextPage)
      (K := fun reply => Underway lower args project (shown reply)) _ _ _ hs'
    · exact fun scene hscene => hscene.sound.list nextPage
    · exact fun scene hscene => hscene
    · exact fun reply scene hscene => hscene.mono (by simp [shown, unavailable])
  have hpage : Triple (serveDisturbed tokens) (Safe args project (Sound lower args project))
      (listNamespacedCustomObject args.labelSelector limit nextPage)
      (fun page => Safe args project (Underway lower args project page.items))
      (fun _ => Safe args project (Sound lower args project)) := by
    apply hlist.bind
    intro reply
    cases reply with
    | error status => exact triple_raise fun _ h => h.mono fun _ hscene => hscene.sound
    | ok page => exact triple_ret fun _ h => h
  apply hpage.bind
  intro page
  apply (triple_adjustSessions hactual page.items).bind
  exact fun _ => triple_ret fun _ h => h

theorem triple_adjustPages (hactual : args.dryRun = false) (rounds : Nat) (nextPage : String) :
    Triple (serveDisturbed tokens) (Safe args project (Sound lower args project))
      (adjustPages lower args limit rounds nextPage)
      (fun _ => Safe args project (Sound lower args project))
      (fun _ => Safe args project (Sound lower args project)) := by
  induction rounds generalizing nextPage with
  | zero => exact triple_ret fun _ h => h
  | succ rounds ih =>
    apply (triple_adjustPage hactual nextPage).bind
    intro next
    cases next with
    | none => exact triple_ret fun _ h => h
    | some token => exact ih token

theorem Sound.interruptedRun (hactual : args.dryRun = false) (h : Sound lower args project scene)
    {disturbances : List Disturbance} (hpossible : ∀ disturbance ∈ disturbances,
      ∀ happening ∈ disturbance.happenings, Possible args project happening) :
    Sound lower args project (interruptedRun lower tokens args limit scene disturbances) := by
  have hrun : Triple (serveDisturbed tokens) (Safe args project (Sound lower args project))
      (adjustAnnotations lower args limit (disturbances.length + 1))
      (fun _ => Safe args project (Sound lower args project))
      (fun _ => Safe args project (Sound lower args project)) :=
    triple_adjustPages hactual (disturbances.length + 1) ""
  have hstart : Safe args project (Sound lower args project) (scene, disturbances) := ⟨h, hpossible⟩
  exact (hrun.state hstart).1

theorem Sound.interruptedRuns (hactual : args.dryRun = false) (h : Sound lower args project scene)
    {runs : List (List Disturbance)} (hpossible : ∀ disturbances ∈ runs,
      ∀ disturbance ∈ disturbances, ∀ happening ∈ disturbance.happenings,
        Possible args project happening) :
    Sound lower args project (interruptedRuns lower tokens args limit scene runs) := by
  induction runs generalizing scene with
  | nil => exact h
  | cons disturbances runs ih =>
    exact ih (h.interruptedRun hactual (hpossible disturbances List.mem_cons_self))
      fun later hlater => hpossible later (List.mem_cons_of_mem _ hlater)

/-! ### The run after them -/

theorem Sound.wellFormed_objects (h : Sound lower args project scene) :
    ∀ object ∈ scene.api.objects, WellFormed object := by
  intro object' hobject'
  obtain ⟨object, -, hhalfway⟩ := Results.exists_of_mem_forall2 h.halfway hobject'
  exact hhalfway.wellFormed

def Sound.population (h : Sound lower args project scene) : Population where
  objects := scene.api.objects
  nodup := by
    rw [names_eq h.halfway]
    exact h.nodup
  wellFormed := h.wellFormed_objects

theorem Sound.annotated (h : Sound lower args project scene) :
    ∀ object ∈ scene.api.objects, Unlabelled args object → Annotated object.2 := by
  intro object hobject hunlabelled
  have hselected : object.2 ∈
      (scene.api.objects.map Prod.snd).filter (selects args.labelSelector) := by
    refine List.mem_filter.mpr ⟨List.mem_map_of_mem hobject, ?_⟩
    rw [selects_labelSelector]
    exact decide_eq_true hunlabelled
  obtain ⟨name, hjs, -⟩ := h.listed hselected
  exact hjs.annotated

theorem Sound.completes (hactual : args.dryRun = false) (h : Sound lower args project scene) :
    ∃ after, Completes lower tokens args limit scene.api after ∧
      after.objects = adjustedObjects lower args
        ((unlabelledSessions args scene.api.objects).map Prod.fst) scene.api.objects := by
  have hsessions : ∀ object ∈ unlabelledSessions args scene.api.objects,
      object ∈ h.population.objects ∧ Annotated object.2 := by
    intro object hobject
    obtain ⟨hmem, hunlabelled⟩ := List.mem_filter.mp hobject
    exact ⟨hmem, h.annotated object hmem (of_decide_eq_true hunlabelled)⟩
  have hnodup : ([] ++ (unlabelledSessions args scene.api.objects).map Prod.fst).Nodup :=
    h.population.nodup.sublist (List.filter_sublist.map _)
  have hapi : scene.api.objects = adjustedObjects lower args [] h.population.objects :=
    (adjustedObjects_nil _).symm
  obtain ⟨after, hafter, hobjects⟩ := run_adjustPages hactual _ (Nat.lt_succ_self _) hsessions
    hnodup hapi (lists_first tokens args limit scene.api)
  exact ⟨after, ⟨_, hafter⟩, hobjects⟩

end Calls

end Soundness

section Resumption

variable {lower : String → String} {annotationPrefix : String}
variable {project : String → String → Option Json}

/-- A run adjusts what is left over, and leaves what has been adjusted. -/
theorem Halfway.migrated {object object' object'' : String × Json}
    (h : Halfway lower (actualRun annotationPrefix) object object')
    (hmigrated : Migrated lower annotationPrefix object' object'') :
    Migrated lower annotationPrefix object object'' := by
  rcases h.adjusted with hsame | ⟨hunlabelled, hadjusted⟩
  · have heq : object' = object := Prod.ext h.name hsame
    rwa [heq] at hmigrated
  · obtain ⟨hname, hcontent⟩ := hmigrated
    have hlabelled : ¬ Unlabelled (actualRun annotationPrefix) object' :=
      @not_unlabelled_of_adjusted lower _ object object' hadjusted
    rw [if_neg hlabelled] at hcontent
    refine ⟨hname.trans h.name, ?_⟩
    rw [if_pos hunlabelled, hcontent]
    exact hadjusted

theorem forall₂_migrated {objects objects' objects'' : List (String × Json)}
    (h : List.Forall₂ (Halfway lower (actualRun annotationPrefix)) objects objects')
    (hmigrated : List.Forall₂ (Migrated lower annotationPrefix) objects' objects'') :
    List.Forall₂ (Migrated lower annotationPrefix) objects objects'' := by
  induction h generalizing objects'' with
  | nil => exact hmigrated
  | cons hhead _ ih =>
    cases hmigrated with
    | cons hhead' htail' => exact .cons (hhead.migrated hhead') (ih htail')

/-- Before the first run. -/
def Population.scene (population : Population) : Scene where
  api := population.api
  unmigrated := population.objects

theorem sound_start {population : Population} {args : Args}
    (h : ∀ object ∈ population.objects, Unlabelled args object →
      Migratable args project object) : Sound lower args project population.scene where
  nodup := population.nodup
  wellFormed := population.wellFormed
  migratable := h
  halfway := List.forall₂_same.mpr fun object hobject =>
    Halfway.refl (population.wellFormed object hobject)
  pending := nofun

variable (tokens : ContinueTokens) (limit : Nat)

/-- Whatever interrupts the runs and whatever happens to the sessions meanwhile, every session is
adjusted or as it would be without the migration, and one more run migrates all of them. -/
theorem migrates_after_interruptions (population : Population)
    (hpopulation : ∀ object ∈ population.objects,
      Unlabelled (actualRun annotationPrefix) object →
        Migratable (actualRun annotationPrefix) project object)
    (runs : List (List Disturbance)) (hruns : ∀ disturbances ∈ runs,
      ∀ disturbance ∈ disturbances, ∀ happening ∈ disturbance.happenings,
        Possible (actualRun annotationPrefix) project happening) :
    let scene := interruptedRuns lower tokens (actualRun annotationPrefix) limit
      population.scene runs
    List.Forall₂ (Halfway lower (actualRun annotationPrefix)) scene.unmigrated
        scene.api.objects ∧
      ∃ after, Completes lower tokens (actualRun annotationPrefix) limit scene.api after ∧
        List.Forall₂ (Migrated lower annotationPrefix) scene.unmigrated after.objects ∧
        ∃ again, Completes lower tokens (actualRun annotationPrefix) limit after again ∧
          again.objects = after.objects := by
  intro scene
  have hsound : Sound lower (actualRun annotationPrefix) project scene :=
    (sound_start hpopulation).interruptedRuns rfl hruns
  refine ⟨hsound.halfway, ?_⟩
  obtain ⟨after, hafter, hobjects⟩ := @Sound.completes _ _ _ tokens limit scene rfl hsound
  have hmigrated : List.Forall₂ (Migrated lower annotationPrefix) scene.api.objects
      after.objects := by
    rw [hobjects]
    exact migrated_adjustedObjects hsound.population
  have hlabelled : ∀ object ∈ after.objects,
      ¬ Unlabelled (actualRun annotationPrefix) object := by
    intro object hobject
    obtain ⟨before, -, hbefore⟩ := Results.exists_of_mem_forall2 hmigrated hobject
    exact labelled_of_migrated hbefore
  refine ⟨after, hafter, ?_, completes_of_labelled hlabelled⟩
  exact forall₂_migrated hsound.halfway hmigrated

end Resumption

/-! ### Two interrupted runs -/

/-- Sessions of one project, as the service creates them. -/
def demoSession (name : String) : Json :=
  .obj [("metadata", .obj [("name", .str name), ("annotations",
    .obj [("renku.io/projectName", "Demo"), ("renku.io/namespace", "Anna")])])]

def demoProject (_ key : String) : Option Json :=
  if key = "renku.io/projectName" then some "Demo" else some "Anna"

theorem demoSession_migratable (name : String) :
    Migratable (actualRun "renku.io/") demoProject (name, demoSession name) where
  wellFormed :=
    { name := rfl
      annotations := by
        intro annotations hannotations
        cases hannotations
        refine ⟨_, rfl, ?_⟩
        intro key value hvalue
        unfold Json.getMember at hvalue
        split at hvalue
        · exact ⟨_, (Option.some.inj hvalue).symm⟩
        · unfold Json.getMember at hvalue
          split at hvalue
          · exact ⟨_, (Option.some.inj hvalue).symm⟩
          · cases hvalue }
  unlabelled := rfl
  annotated := Option.some_ne_none _
  project := by
    intro key hkey
    have hkeys : key = "renku.io/projectName" ∨ key = "renku.io/namespace" := by
      simpa [Args.annotationKeys, actualRun] using hkey
    rcases hkeys with rfl | rfl <;> rfl

def demoPopulation : Population where
  objects := [("anna-demo", demoSession "anna-demo")]
  nodup := List.nodup_singleton _
  wellFormed := by
    intro object hobject
    rw [List.mem_singleton.mp hobject]
    exact (demoSession_migratable "anna-demo").wellFormed

def hibernation : Json := .obj [("spec", .obj [("jupyterServer", .obj [("hibernated", true)])])]

theorem hibernation_untouched {key : String} (hkey : key ≠ "spec") (location : List String) :
    Json.Untouched (key :: location) hibernation :=
  .absent fun p hp => by
    rw [List.mem_singleton.mp hp]
    exact hkey

/-- A session is created; the first patch is served, but the pod stops before it hears of that. -/
def demoRuns : List (List Disturbance) :=
  [[⟨[.created "bob-demo" (demoSession "bob-demo")], .answered⟩,
      ⟨[.patched "anna-demo" hibernation], .unanswered⟩],
    [⟨[.deleted "bob-demo"], .refused⟩]]

theorem demoRuns_possible : ∀ disturbances ∈ demoRuns, ∀ disturbance ∈ disturbances,
    ∀ happening ∈ disturbance.happenings,
      Possible (actualRun "renku.io/") demoProject happening := by
  have hne : "metadata" ≠ "spec" := by decide
  have hpatch : Possible (actualRun "renku.io/") demoProject (.patched "anna-demo" hibernation) := by
    constructor
    · intro location hlocation
      have hmetadata : ∃ rest, location = "metadata" :: rest := by
        rcases List.mem_cons.mp hlocation with rfl | hannotation
        · exact ⟨_, rfl⟩
        · obtain ⟨key, -, rfl⟩ := List.mem_map.mp hannotation
          exact ⟨_, rfl⟩
      obtain ⟨rest, rfl⟩ := hmetadata
      exact hibernation_untouched hne rest
    · intro object hobject
      have hkept : ∀ rest, dig ("metadata" :: rest) (Json.mergePatch hibernation object.2) =
          dig ("metadata" :: rest) object.2 :=
        fun rest => Json.dig_mergePatch_of_untouched (hibernation_untouched hne rest) object.2
      refine ⟨(hkept ["name"]).trans hobject.name, ?_⟩
      intro annotations hannotations
      exact hobject.annotations annotations ((hkept ["annotations"]).symm.trans hannotations)
  simp only [demoRuns, List.mem_cons, List.not_mem_nil, or_false, forall_eq_or_imp, forall_eq]
  exact ⟨⟨demoSession_migratable "bob-demo", hpatch⟩, trivial⟩

theorem annas_session_migrated :
    let scene := interruptedRuns PyText.lower nextTokens (actualRun "renku.io/") 50
      demoPopulation.scene demoRuns
    List.Forall₂ (Halfway PyText.lower (actualRun "renku.io/")) scene.unmigrated
        scene.api.objects ∧
      ∃ after, Completes PyText.lower nextTokens (actualRun "renku.io/") 50 scene.api after ∧
        List.Forall₂ (Migrated PyText.lower "renku.io/") scene.unmigrated after.objects ∧
        ∃ again, Completes PyText.lower nextTokens (actualRun "renku.io/") 50 after again ∧
          again.objects = after.objects := by
  refine @migrates_after_interruptions PyText.lower "renku.io/" demoProject nextTokens 50
    demoPopulation ?_ demoRuns demoRuns_possible
  intro object hobject _
  rw [List.mem_singleton.mp hobject]
  exact demoSession_migratable "anna-demo"

end RenkuNotebooks.ResourceSchemaMigrations
