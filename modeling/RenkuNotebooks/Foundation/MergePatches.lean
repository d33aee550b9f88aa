import RenkuNotebooks.Foundation.JsonPatch

/-!
# Merge patches and the rest of a document

Documents that agree apart from some locations still do so after one merge patch for both of them,
whatever the patch writes.
-/

namespace RenkuNotebooks.Json

/-- The location is neither at or below a changed one nor above one. -/
def Apart (changed : List String → Prop) (location : List String) : Prop :=
  ∀ c, changed c → ¬ c <+: location ∧ ¬ location <+: c

def AgreeApart (changed : List String → Prop) (j j' : Json) : Prop :=
  ∀ location, Apart changed location → dig location j = dig location j'

/-- The changed locations, seen from a member. -/
def inside (key : String) (changed : List String → Prop) (c : List String) : Prop :=
  changed (key :: c)

def MembersAgree (changed : List String → Prop) (ms ms' : List (String × Json)) : Prop :=
  ∀ key rest, Apart changed (key :: rest) →
    (getMember key ms).bind (dig rest) = (getMember key ms').bind (dig rest)

section Agreement

variable {changed : List String → Prop} {key : String} {rest : List String}

theorem Apart.member (h : Apart changed (key :: rest)) : Apart (inside key changed) rest := by
  intro c hc
  obtain ⟨hbelow, habove⟩ := h (key :: c) hc
  exact ⟨fun hp => hbelow (List.cons_prefix_cons.mpr ⟨rfl, hp⟩),
    fun hp => habove (List.cons_prefix_cons.mpr ⟨rfl, hp⟩)⟩

theorem apart_cons (hroot : ¬ changed []) (h : Apart (inside key changed) rest) :
    Apart changed (key :: rest) := by
  intro c hc
  cases c with
  | nil => exact absurd hc hroot
  | cons k c =>
    rw [List.cons_prefix_cons, List.cons_prefix_cons]
    constructor
    · rintro ⟨rfl, hp⟩
      exact (h c hc).1 hp
    · rintro ⟨rfl, hp⟩
      exact (h c hc).2 hp

theorem Apart.root_unchanged {location : List String} (h : Apart changed location) : ¬ changed [] :=
  fun hroot => (h [] hroot).1 List.nil_prefix

/-- Only where nothing is changed, the whole document is apart from what is. -/
theorem AgreeApart.eq_of_root {j j' : Json} (h : AgreeApart changed j j') (hroot : Apart changed []) :
    j = j' :=
  Option.some.inj (h [] hroot)

theorem AgreeApart.members {j j' : Json} (h : AgreeApart changed j j') :
    MembersAgree changed (membersOf j) (membersOf j') := by
  intro key rest hapart
  rw [getMember_membersOf, getMember_membersOf]
  exact h (key :: rest) hapart

theorem dig_getD_null (x : Option Json) (key : String) (rest : List String) :
    dig (key :: rest) (x.getD .null) = x.bind (dig (key :: rest)) := by
  cases x <;> rfl

theorem MembersAgree.child {ms ms' : List (String × Json)} (h : MembersAgree changed ms ms')
    (hroot : ¬ changed []) (key : String) :
    AgreeApart (inside key changed) ((getMember key ms).getD .null)
      ((getMember key ms').getD .null) := by
  intro rest hrest
  have hsame := h key rest (apart_cons hroot hrest)
  cases rest with
  | nil =>
    have hmember : getMember key ms = getMember key ms' := by
      simpa [dig] using hsame
    rw [hmember]
  | cons k rest =>
    rw [dig_getD_null, dig_getD_null]
    exact hsame

theorem MembersAgree.erase {ms ms' : List (String × Json)} (h : MembersAgree changed ms ms')
    (key : String) : MembersAgree changed (eraseMember key ms) (eraseMember key ms') := by
  intro k rest hapart
  by_cases hk : k = key
  · subst hk
    rw [getMember_eraseMember, getMember_eraseMember]
  · rw [getMember_eraseMember_of_ne hk, getMember_eraseMember_of_ne hk]
    exact h k rest hapart

theorem MembersAgree.set {ms ms' : List (String × Json)} (h : MembersAgree changed ms ms')
    {key : String} {v v' : Json} (hv : AgreeApart (inside key changed) v v') :
    MembersAgree changed (setMember key v ms) (setMember key v' ms') := by
  intro k rest hapart
  by_cases hk : k = key
  · subst hk
    rw [getMember_setMember, getMember_setMember]
    exact hv rest hapart.member
  · rw [getMember_setMember_of_ne hk, getMember_setMember_of_ne hk]
    exact h k rest hapart

end Agreement

mutual
theorem AgreeApart.mergePatch : ∀ (patch : Json) {changed : List String → Prop} {j j' : Json},
    AgreeApart changed j j' → AgreeApart changed (mergePatch patch j) (mergePatch patch j')
  | .obj ps, changed, j, j', h => by
    intro location hlocation
    cases location with
    | nil => rw [h.eq_of_root hlocation]
    | cons key rest =>
      rw [Json.mergePatch, Json.mergePatch]
      exact MembersAgree.mergeMembers ps hlocation.root_unchanged h.members key rest hlocation
  | .null, _, _, _, _ => fun _ _ => by rw [Json.mergePatch, Json.mergePatch]
  | .bool _, _, _, _, _ => fun _ _ => by rw [Json.mergePatch, Json.mergePatch]
  | .int _, _, _, _, _ => fun _ _ => by rw [Json.mergePatch, Json.mergePatch]
  | .float _, _, _, _, _ => fun _ _ => by rw [Json.mergePatch, Json.mergePatch]
  | .str _, _, _, _, _ => fun _ _ => by rw [Json.mergePatch, Json.mergePatch]
  | .arr _, _, _, _, _ => fun _ _ => by rw [Json.mergePatch, Json.mergePatch]

theorem MembersAgree.mergeMembers : ∀ (ps : List (String × Json)) {changed : List String → Prop}
    {ms ms' : List (String × Json)}, ¬ changed [] → MembersAgree changed ms ms' →
    MembersAgree changed (mergeMembers ps ms) (mergeMembers ps ms')
  | [], _, _, _, _, h => h
  | (key, v) :: ps, changed, ms, ms', hroot, h => by
    unfold Json.mergeMembers
    split
    · exact MembersAgree.mergeMembers ps hroot (h.erase key)
    · have hchild := AgreeApart.mergePatch v (h.child hroot key)
      exact MembersAgree.mergeMembers ps hroot (h.set hchild)
end

/-- What lies above an untouched location stays. -/
theorem dig_ne_none_of_untouched {keys : List String} {key : String} {patch j : Json}
    (h : Untouched (keys ++ [key]) patch) (hj : dig keys j ≠ none) :
    dig keys (Json.mergePatch patch j) ≠ none := by
  induction keys generalizing patch j with
  | nil => exact Option.some_ne_none _
  | cons k keys ih =>
    rw [dig_cons] at hj
    rw [List.cons_append] at h
    rw [dig_cons]
    cases h with
    | absent hps =>
      rw [get?_mergePatch_of_ne hps]
      exact hj
    | member hps hqs hv =>
      rw [get?_mergePatch hv.ne_null hps hqs, Option.bind_some]
      apply ih hv
      cases hget : j.get? k with
      | none =>
        rw [hget] at hj
        exact absurd rfl hj
      | some c =>
        rw [hget] at hj
        exact hj

/-- Where a merge patch writes texts only, all that it brings are texts. -/
theorem text_or_kept_of_mergeMembers {ps : List (String × Json)}
    (hps : ∀ p ∈ ps, ∃ s, p.2 = .str s) {ms : List (String × Json)} {key : String} {value : Json}
    (h : getMember key (mergeMembers ps ms) = some value) :
    (∃ s, value = .str s) ∨ getMember key ms = some value := by
  induction ps generalizing ms with
  | nil => exact .inr h
  | cons p ps ih =>
    obtain ⟨s, hs⟩ := hps p List.mem_cons_self
    have hmerged : mergeMembers (p :: ps) ms = mergeMembers ps (setMember p.1 (.str s) ms) := by
      obtain ⟨k, v⟩ := p
      cases hs
      rw [mergeMembers, if_neg (by simp), mergePatch]
    rw [hmerged] at h
    rcases ih (fun q hq => hps q (List.mem_cons_of_mem _ hq)) h with htext | hkept
    · exact .inl htext
    · by_cases hkey : key = p.1
      · subst hkey
        rw [getMember_setMember] at hkept
        exact .inl ⟨s, (Option.some.inj hkept).symm⟩
      · rw [getMember_setMember_of_ne hkey] at hkept
        exact .inr hkept

end RenkuNotebooks.Json
