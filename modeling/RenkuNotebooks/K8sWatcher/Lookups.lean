import RenkuNotebooks.K8sWatcher.CacheCollection

/-!
# Three ways to look a resource up

By its name, by its user, and by both: what the look-ups find fits together, in whatever order
each of them iterates over the namespaces.
-/

namespace RenkuNotebooks.K8sWatcher

open Std Notebooks

def hasNameOf (name : String) (object : Json) : Prop :=
  object.dig ["metadata", "name"] = some (.str name)

instance (name : String) (object : Json) : Decidable (hasNameOf name object) :=
  inferInstanceAs (Decidable (_ = _))

/-! ### One cache -/

namespace Cache

variable (cache : Cache) {name userID : String}

/-- An object without the label belongs to no user that has a name. -/
theorem userIDOf_eq_iff {object : Json} (hne : userID ≠ "") :
    cache.userIDOf object = .str userID ↔ hasLabel cache.userIDLabel userID object := by
  rw [userIDOf, hasLabel]
  cases object.dig ["metadata", "labels", cache.userIDLabel] with
  | none =>
    rw [Option.getD_none]
    exact ⟨fun h => absurd (Json.str.inj h).symm hne, fun h => nomatch h⟩
  | some value => rw [Option.getD_some, Option.some_inj]

theorem filter_key {entries : List (String × Json)} {found : Option Json}
    (hdistinct : entries.Pairwise fun a b => a.1 ≠ b.1)
    (hfound : ∀ object, (name, object) ∈ entries ↔ found = some object) :
    (entries.filter (·.1 = name)).map (·.2) = found.toList := by
  induction entries with
  | nil =>
    cases found with
    | none => rfl
    | some object => exact absurd ((hfound object).mpr rfl) List.not_mem_nil
  | cons entry entries ih =>
    obtain ⟨key, object⟩ := entry
    obtain ⟨hfirst, hdistinct⟩ := List.pairwise_cons.mp hdistinct
    by_cases hkey : key = name
    · have hrest : entries.filter (·.1 = name) = [] := List.filter_eq_nil_iff.mpr fun e he heq =>
        hfirst e he (hkey.trans (of_decide_eq_true heq).symm)
      have hobject : found = some object := (hfound object).mp (hkey ▸ List.mem_cons_self)
      rw [List.filter_cons, if_pos (decide_eq_true hkey), hrest, hobject]
      rfl
    · rw [List.filter_cons, if_neg (by simpa using hkey)]
      refine ih hdistinct fun object' => ?_
      rw [← hfound object', List.mem_cons]
      exact ⟨.inr, fun h => h.resolve_left fun heq => hkey (Prod.mk.inj heq).1.symm⟩

/-- The objects of a cache that have the name are the one that is kept under it. -/
theorem filter_hasNameOf (name : String) :
    cache.objects.filter (hasNameOf name ·) = cache.lister[name]?.toList := by
  have hnamed : ∀ entry ∈ cache.lister.toList,
      decide (hasNameOf name entry.2) = decide (entry.1 = name) := by
    rintro ⟨key, object⟩ hmem
    have hobject := cache.named key object (ExtTreeMap.mem_toList_iff_getElem?_eq_some.mp hmem)
    have hiff : hasNameOf name object ↔ key = name := by
      rw [hasNameOf, hobject, Option.some_inj, Json.str.injEq]
    exact decide_eq_decide.mpr hiff
  have hdistinct : cache.lister.toList.Pairwise fun a b => a.1 ≠ b.1 :=
    cache.lister.distinct_keys_toList.imp fun hne heq => hne (by rw [heq]; exact ReflCmp.compare_self)
  rw [objects, List.filter_map, ← filter_key hdistinct fun object =>
    ExtTreeMap.mem_toList_iff_getElem?_eq_some]
  exact congrArg (List.map _) (List.filter_congr hnamed)

end Cache

/-! ### All namespaces -/

namespace CacheCollection

variable (c : CacheCollection) {name userID : String}

theorem getByNameAndUserID_eq (hne : userID ≠ "") : c.getByNameAndUserID name userID =
    .ok (c.caches.filterMap fun n =>
      n.2.lister[name]?.filter (hasLabel n.2.userIDLabel userID ·)) := by
  simp only [getByNameAndUserID_eq_filter, Cache.userIDOf_eq_iff _ hne]

/-- The same namespaces, met in another order. -/
def SameCaches (c c' : CacheCollection) : Prop := c.caches.Perm c'.caches

variable {c c' c'' : CacheCollection} {label : String}

/-- What is found for a name and a user are the objects of the name that are the user's. -/
theorem found_perm_byName (hlabel : ∀ n ∈ c.caches, n.2.userIDLabel = label)
    (hsame : c.SameCaches c') :
    (c.caches.filterMap fun n => n.2.lister[name]?.filter (hasLabel n.2.userIDLabel userID ·)).Perm
      ((c'.caches.filterMap fun n => n.2.lister[name]?).filter (hasLabel label userID ·)) := by
  have hfound : (c.caches.filterMap fun n =>
      n.2.lister[name]?.filter (hasLabel n.2.userIDLabel userID ·)) =
        (c.caches.filterMap fun n => n.2.lister[name]?).filter (hasLabel label userID ·) := by
    rw [List.filter_filterMap]
    exact List.filterMap_congr fun n hn => by rw [hlabel n hn]
  rw [hfound]
  exact (hsame.filterMap _).filter _

/-- They are also the objects of the user that have the name. -/
theorem found_perm_byUser (hsame : c.SameCaches c') :
    (c.caches.filterMap fun n => n.2.lister[name]?.filter (hasLabel n.2.userIDLabel userID ·)).Perm
      ((c'.caches.flatMap fun n => n.2.objects.filter (hasLabel n.2.userIDLabel userID ·)).filter
        (hasNameOf name ·)) := by
  have hcache : ∀ n : String × Cache,
      (n.2.objects.filter (hasLabel n.2.userIDLabel userID ·)).filter (hasNameOf name ·) =
        (n.2.lister[name]?.filter (hasLabel n.2.userIDLabel userID ·)).toList := by
    intro n
    rw [List.filter_comm, n.2.filter_hasNameOf]
    cases n.2.lister[name]? with
    | none => rfl
    | some object =>
      by_cases hlabel : hasLabel n.2.userIDLabel userID object <;>
        simp [hlabel, Option.filter_some]
  rw [List.filter_flatMap, List.filterMap_eq_flatMap_toList]
  simp only [hcache]
  exact hsame.flatMap_right _

/-- The three look-ups agree, each with an order of the namespaces of its own. -/
theorem lookups_agree {validLabelValue : String → Bool} (hsame : c.SameCaches c')
    (hsame' : c.SameCaches c'') (hlabel : ∀ n ∈ c.caches, n.2.userIDLabel = label)
    (hne : userID ≠ "") (hvalid : validLabelValue userID = true) :
    ∃ found byName byUser, c.getByNameAndUserID name userID = .ok found ∧
      c'.getByName name = .ok byName ∧ c''.getByUserID validLabelValue userID = .ok byUser ∧
      found.Perm (byName.filter (hasLabel label userID ·)) ∧
      found.Perm (byUser.filter (hasNameOf name ·)) :=
  ⟨_, _, _, c.getByNameAndUserID_eq hne, c'.getByName_eq name, c''.getByUserID_eq hne hvalid,
    found_perm_byName hlabel hsame, found_perm_byUser hsame'⟩

end CacheCollection

/-! ### Two namespaces -/

def sampleServer (name userID : String) : Json :=
  .obj [("metadata", .obj [("name", .str name), ("labels", .obj [("userId", .str userID)])])]

theorem sampleServer_named (name userID : String) (key : String) (object : Json)
    (h : ((∅ : ExtTreeMap String Json).insert name (sampleServer name userID))[key]? =
      some object) : object.dig ["metadata", "name"] = some (.str key) := by
  rw [ExtTreeMap.getElem?_insert] at h
  split at h
  next heq =>
    cases h
    rw [← Std.compare_eq_iff_eq.mp heq]
    rfl
  next =>
    rw [ExtTreeMap.getElem?_empty] at h
    cases h

def sampleCache (name userID : String) : Cache where
  lister := (∅ : ExtTreeMap String Json).insert name (sampleServer name userID)
  named := sampleServer_named name userID
  userIDLabel := "userId"

/-- One user has the name in the first namespace, another one in the second. -/
def sampleCaches : List (String × Cache) :=
  [("renku", sampleCache "session" "ada"), ("sessions", sampleCache "session" "bob")]

theorem sampleCaches_nodup : (sampleCaches.map (·.1)).Nodup := by decide

theorem reversedCaches_nodup : (sampleCaches.reverse.map (·.1)).Nodup := by decide

def sampleCollection : CacheCollection where
  caches := sampleCaches
  nodup := sampleCaches_nodup

def reversedCollection : CacheCollection where
  caches := sampleCaches.reverse
  nodup := reversedCaches_nodup

theorem sample_lookups : ∃ found byName byUser,
    sampleCollection.getByNameAndUserID "session" "ada" = .ok found ∧
      reversedCollection.getByName "session" = .ok byName ∧
      sampleCollection.getByUserID (fun _ => true) "ada" = .ok byUser ∧
      found.Perm (byName.filter (hasLabel "userId" "ada" ·)) ∧
      found.Perm (byUser.filter (hasNameOf "session" ·)) :=
  CacheCollection.lookups_agree (List.reverse_perm sampleCaches).symm (List.Perm.refl _)
    (List.forall_mem_cons.mpr ⟨rfl, List.forall_mem_singleton.mpr rfl⟩) (by decide) rfl

end RenkuNotebooks.K8sWatcher
