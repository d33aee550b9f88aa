import RenkuNotebooks.Foundation.Interleaving
import RenkuNotebooks.Notebooks.Cleanup
import RenkuNotebooks.Notebooks.ConcurrentPatches

/-!
# Concurrent launches

Any number of launches of one session, interleaved call by call. A launch whose second look-up
finds a server that another one has created meanwhile goes on as if it had created the server
itself, and deletes it when one of its secrets fails.
-/

namespace RenkuNotebooks.Notebooks

open Prog

/-! ### How far a launch has come -/

/-- A failure of a secret that the server is deleted for. -/
def SecretReply.cleanedUp : SecretReply → Bool
  | .connectionError _ => true
  | .otherError => false
  | .response status body => status ≠ 201 && body.isSome

def Call.cleanedUp : (c : Call) → c.Reply → Bool
  | .postSecret _, reply => SecretReply.cleanedUp reply
  | _, _ => false

/-- A launch looks for the server, has created it, cleans up after a secret, or has deleted the
server. -/
inductive LaunchStage where
  | searching
  | created
  | cleaning
  | ended
  deriving DecidableEq, Repr

def LaunchStage.next (q : LaunchStage) : (c : Call) → c.Reply → LaunchStage
  | .createServer _ _ _, .ok _ => .created
  | .postSecret _, reply => if reply.cleanedUp then .cleaning else q
  | .deleteServer _ _ _, .ok _ => .ended
  | _, _ => q

section Run

variable {ι : Type} [DecidableEq ι] (api : Api) (requests : ι → LaunchRequest)

def launchPool (w : World) : RequestPool ι where
  state := w
  threads := fun i => api.launchNotebookHelper (requests i)
  trace := []

def stageAfter (i : ι) (trace : List (Event ι Call Call.Reply)) : LaunchStage :=
  trace.foldl (fun q e => if e.thread = i then q.next e.call e.reply else q) .searching

/-- The launch that has created the server at a place, where one of them has. -/
def creatorAfter (ns name : String) (creator : Option ι) : Event ι Call Call.Reply → Option ι
  | ⟨i, .createServer ns' name' _, .ok _⟩ => if (ns', name') = (ns, name) then some i else creator
  | ⟨_, .deleteServer ns' name' _, .ok _⟩ => if (ns', name') = (ns, name) then none else creator
  | _ => creator

def creator (ns name : String) (trace : List (Event ι Call Call.Reply)) : Option ι :=
  trace.foldl (creatorAfter ns name) none

/-- A launch that deletes a server has created it. -/
def DeletesOnlyOwn (m : Move ι) (s : RequestPool ι) : Prop :=
  ∀ ns name forced k, s.threads m.1 = .call (.deleteServer ns name forced) k →
    (serve m.2 (.deleteServer ns name forced) s.state).1 = .ok () →
    creator ns name s.trace = some m.1

def InNamespace (ns : String) (server : Json) : Prop :=
  server.dig ["metadata", "namespace"] = some (.str ns)

instance (ns : String) (server : Json) : Decidable (InNamespace ns server) :=
  inferInstanceAs (Decidable (_ = _))

/-- A launch for which a secret fails so that it cleans up has created the server, and then it is
only shown servers from the namespace in which it has created it. -/
structure CleansUpOwn (m : Move ι) (s : RequestPool ι) : Prop where
  secrets : ∀ c k, s.threads m.1 = .call c k → c.cleanedUp (serve m.2 c s.state).1 = true →
    stageAfter m.1 s.trace = .created
  place : ∀ c k, s.threads m.1 = .call c k → stageAfter m.1 s.trace = .cleaning →
    ∀ server ∈ c.shown (serve m.2 c s.state).1, InNamespace api.client.preferredNamespace server

end Run

/-! ### What a launch calls in its stages -/

def Call.PostsSecret : Call → Prop
  | .postSecret _ => True
  | _ => False

def launchProtocol (ns name : String) : Protocol Call Call.Reply LaunchStage where
  allowed q c := c.LooksUp name ∨ c.PostsSecret ∨
    (q = .searching ∧ ∃ manifest, c = .createServer ns name manifest) ∨
    (q = .cleaning ∧ c = .deleteServer ns name true)
  assumed q c reply := (q.next c reply = .cleaning → q ≠ .searching) ∧
    (q = .cleaning → ∀ server ∈ c.shown reply, InNamespace ns server)
  next := LaunchStage.next

section LookUps

variable {Q : Type} {P : Protocol Call Call.Reply Q} {q : Q} {good : Json → Prop} {name : String}
  {k : K8sClient}

/-- The look-ups of a server leave the phase as it is, and show servers with a property. -/
def LooksUpOnly (P : Protocol Call Call.Reply Q) (q : Q) (good : Json → Prop) (name : String) :
    Prop :=
  ∀ c : Call, c.LooksUp name → P.allowed q c ∧ ∀ reply, P.assumed q c reply →
    P.next q c reply = q ∧ ∀ server ∈ c.shown reply, good server

/-- What a look-up finds has been shown. -/
def FoundGood (q : Q) (good : Json → Prop) (server : Option Json) (q' : Q) : Prop :=
  q' = q ∧ ∀ s, server = some s → good s

theorem cacheGet_obeys (h : LooksUpOnly P q good name) :
    (JsServerCache.getServer name).Obeys P (FoundGood q good) (fun _ q' => q' = q) q := by
  obtain ⟨hallowed, hshown⟩ := h (.cacheGet name) rfl
  apply Obeys.bind (fun reply q' => q' = q ∧ ∀ server ∈ Call.shown (.cacheGet name) reply, good server)
  · exact obeys_perform hallowed hshown
  · rintro reply _ ⟨rfl, hgood⟩
    rcases reply with (n | _) | servers
    · rfl
    · rfl
    · apply obeys_ofExcept
      · intro server hserver
        refine ⟨rfl, ?_⟩
        rintro s rfl
        exact hgood s (mem_of_single hserver)
      · exact fun e _ => rfl

theorem apiGet_obeys {ns : String} (h : LooksUpOnly P q good name) :
    (NamespacedK8sClient.getServer ns name).Obeys P (FoundGood q good) (fun _ q' => q' = q) q := by
  obtain ⟨hallowed, hshown⟩ := h (.getServer ns name) rfl
  apply Obeys.bind (fun reply q' =>
    q' = q ∧ ∀ server ∈ Call.shown (.getServer ns name) reply, good server)
  · exact obeys_perform hallowed hshown
  · rintro reply _ ⟨rfl, hgood⟩
    rcases reply with (n | _) | server
    · dsimp only [exceptApi]
      split
      · exact ⟨rfl, nofun⟩
      · rfl
    · rfl
    · refine ⟨rfl, ?_⟩
      rintro s ⟨⟩
      exact hgood server (List.mem_singleton_self server)

theorem getServerFromApi_obeys (h : LooksUpOnly P q good name) :
    (k.getServerFromApi name).Obeys P (FoundGood q good) (fun _ q' => q' = q) q := by
  apply Obeys.bind (FoundGood q good)
  · unfold K8sClient.getSessionServer
    split
    · exact ⟨rfl, nofun⟩
    · exact apiGet_obeys h
  · rintro session _ ⟨rfl, hsession⟩
    apply Obeys.bind (FoundGood _ good) (apiGet_obeys h)
    rintro renku _ ⟨rfl, hrenku⟩
    apply obeys_ofExcept
    · intro server hserver
      refine ⟨rfl, ?_⟩
      rintro s rfl
      exact (mem_of_single_found hserver).elim (fun hs => hsession s hs) fun hs => hrenku s hs
    · exact fun e _ => rfl

theorem getServer_obeys {safeUsername : String} (h : LooksUpOnly P q good name) :
    (k.getServer name safeUsername).Obeys P (FoundGood q good) (fun _ q' => q' = q) q := by
  apply Obeys.bind (FoundGood q good)
  · apply Obeys.tryCatch _ (cacheGet_obeys h)
    rintro e _ rfl
    split
    · exact getServerFromApi_obeys h
    · rfl
  · rintro server _ ⟨rfl, hgood⟩
    refine ⟨rfl, ?_⟩
    intro s hs
    exact hgood s (Option.filter_eq_some_iff.mp hs).1

end LookUps

section Stages

variable {ns name : String} {q : LaunchStage} {api : Api}

/-- Whatever its stage, a launch may stop. -/
def Stopped (_ : PyError) (_ : LaunchStage) : Prop := True

theorem LaunchStage.next_lookUp (q : LaunchStage) {c : Call} (hc : c.LooksUp name)
    (reply : c.Reply) : q.next c reply = q := by
  cases c <;> first | rfl | exact hc.elim

theorem namespaceOf_of_inNamespace {k : K8sClient} {server : Json} {ns' : String}
    (hserver : InNamespace k.preferredNamespace server) (h : k.namespaceOf server = .ok ns') :
    ns' = k.preferredNamespace := by
  unfold K8sClient.namespaceOf at h
  unfold InNamespace at hserver
  unfold K8sClient.preferredNamespace at hserver ⊢
  split at h
  · next hrenku =>
    rw [hserver] at hrenku
    cases h
    exact (Json.str.inj (Option.some.inj hrenku)).symm
  · cases hns : k.sessionNs with
    | none =>
      rw [hns] at h
      cases h
    | some sessions =>
      rw [hns] at h
      exact (Except.ok.inj h).symm

theorem lookUps_cleaning :
    LooksUpOnly (launchProtocol ns name) .cleaning (InNamespace ns) name := by
  intro c hc
  refine ⟨.inl hc, ?_⟩
  intro reply hreply
  exact ⟨LaunchStage.next_lookUp _ hc reply, hreply.2 rfl⟩

/-- While it cleans up, a launch deletes in the namespace of the servers that it is shown. -/
theorem deleteServer_obeys {safeUsername : String} :
    (api.client.deleteServer name safeUsername true).Obeys
      (launchProtocol api.client.preferredNamespace name) (fun _ _ => True) Stopped .cleaning := by
  apply Obeys.bind (fun ns q => ns = api.client.preferredNamespace ∧ q = .cleaning)
  · apply Obeys.bind _ ((getServer_obeys lookUps_cleaning).weaken (fun _ _ h => h)
      fun _ _ _ => trivial)
    rintro (_ | server) q ⟨rfl, hserver⟩
    · trivial
    · dsimp only
      split
      · apply obeys_ofExcept
        · intro ns hns
          exact ⟨namespaceOf_of_inNamespace (hserver server rfl) hns, rfl⟩
        · exact fun _ _ => trivial
      · trivial
  · rintro ns q ⟨rfl, rfl⟩
    apply Obeys.bind (fun _ _ => True)
    · exact obeys_perform (.inr (.inr (.inr ⟨rfl, rfl⟩))) fun _ _ => trivial
    · rintro ((status | _) | _) q _ <;> trivial

theorem onSecretError_obeys {safeUsername errorMsg : String} :
    (api.onSecretError name safeUsername errorMsg).Obeys
      (launchProtocol api.client.preferredNamespace name) (fun _ _ => False) Stopped .cleaning := by
  apply Obeys.bind _ deleteServer_obeys
  intro _ _ _
  trivial

/-- A secret whose failure is not cleaned up after leaves the stage as it is. -/
theorem createSecrets_obeys {safeUsername : String} (hq : q = .searching ∨ q = .created)
    (secrets : List SecretRequest) :
    (api.createSecrets name safeUsername secrets).Obeys
      (launchProtocol api.client.preferredNamespace name) (fun _ _ => True) Stopped q := by
  induction secrets with
  | nil => trivial
  | cons secret secrets ih =>
    apply Obeys.bind (fun reply q' =>
      q' = if SecretReply.cleanedUp reply then .cleaning else q)
    · exact obeys_perform (.inr (.inl trivial)) fun reply _ => rfl
    · rintro reply _ rfl
      apply Obeys.bind (fun _ q' => q' = q)
      · cases reply with
        | connectionError text =>
          exact onSecretError_obeys.mono fun _ _ => False.elim
        | otherError => trivial
        | response status body =>
          unfold Api.secretReplied
          dsimp only
          split
          · next hstatus =>
            have hkept : (SecretReply.response status body).cleanedUp = false := by
              simp [SecretReply.cleanedUp, hstatus]
            rw [hkept]
            rfl
          · next hstatus =>
            cases body with
            | none => trivial
            | some body =>
              have hcleaned : (SecretReply.response status (some body)).cleanedUp = true := by
                simp [SecretReply.cleanedUp, hstatus]
              rw [hcleaned]
              exact onSecretError_obeys.mono fun _ _ => False.elim
      · rintro _ _ rfl
        exact ih

theorem finishLaunch_obeys {server : UserServer} {manifest : Json}
    (hname : server.serverName.text = name) (hq : q = .searching ∨ q = .created) :
    (api.finishLaunch server manifest).Obeys
      (launchProtocol api.client.preferredNamespace name) (fun _ _ => True) Stopped q := by
  apply Obeys.bind (fun _ q' => q' = q)
  · exact obeys_ofExcept (fun _ _ => rfl) fun _ _ => trivial
  · rintro uid _ rfl
    rw [hname]
    apply Obeys.bind _ (createSecrets_obeys hq _)
    intro _ q' _
    apply Obeys.bind (fun _ _ => True)
    · exact obeys_ofExcept (fun _ _ => trivial) fun _ _ => trivial
    · intro _ _ _
      trivial

theorem obeys_of_lookUps {α : Type} {p : Service α} (hp : p.Calls (Call.LooksUp name)) :
    p.Obeys (launchProtocol ns name) (fun _ q' => q' = q) Stopped q := by
  have hraised : ∀ e, Stopped e q := fun _ => trivial
  have hobeys := hp.obeys (P := launchProtocol ns name) (returns_true p) hraised
    fun c hc => ⟨.inl hc, fun reply => LaunchStage.next_lookUp q hc reply⟩
  exact hobeys.mono fun _ _ h => h.2

theorem calls_retryGetServer (tries : Nat) :
    (NamespacedK8sClient.retryGetServer ns name tries).Calls (Call.LooksUp name) := by
  induction tries with
  | zero => trivial
  | succ tries ih =>
    have hget : (Call.getServer ns name).LooksUp name := rfl
    apply Calls.bind (NamespacedK8sClient.calls_getServer hget)
    rintro (_ | server)
    · exact ih
    · trivial

theorem launch_obeys (request : LaunchRequest) :
    (api.launchNotebookHelper request).Obeys
      (launchProtocol api.client.preferredNamespace request.name) (fun _ _ => True) Stopped
      .searching := by
  rw [api.launchNotebookHelper_eq]
  have hlookUps : (api.beforeCreation request).Calls (Call.LooksUp request.name) :=
    calls_beforeCreation fun _ hc => hc
  have hraised : ∀ e, Stopped e .searching := fun _ => trivial
  have hfound := hlookUps.obeys (P := launchProtocol api.client.preferredNamespace request.name)
    returns_beforeCreation hraised
    fun c hc => ⟨.inl hc, fun reply => LaunchStage.next_lookUp _ hc reply⟩
  apply Obeys.bind _ hfound
  rintro (existing | ⟨server, existing⟩ | ⟨server, manifest⟩) q ⟨hfor, rfl⟩
  · apply Obeys.bind (fun _ _ => True)
    · exact obeys_ofExcept (fun _ _ => trivial) fun _ _ => trivial
    · intro _ _ _
      trivial
  · apply finishLaunch_obeys _ (.inl rfl)
    rw [hfor.2]
    rfl
  · obtain ⟨-, hname, hmanifest, -⟩ := hfor
    apply Obeys.bind (fun _ q' => q' = .created)
    · unfold NamespacedK8sClient.createServer
      rw [hmanifest]
      apply Obeys.bind (fun reply q' => q' = LaunchStage.next .searching
        (.createServer api.client.preferredNamespace request.name manifest) reply)
      · exact obeys_perform (.inr (.inr (.inl ⟨rfl, manifest, rfl⟩))) fun _ _ => rfl
      · rintro ((status | _) | _) q rfl
        · trivial
        · trivial
        · exact obeys_of_lookUps (calls_retryGetServer 10)
    · rintro created _ rfl
      apply finishLaunch_obeys _ (.inr rfl)
      rw [hname]
      rfl

end Stages

/-! ### All interleavings -/

section Served

variable (env : Env) (w : World) (ns name : String)

/-- A creation is refused, or it has put a server where there was none. -/
theorem serve_createServer (manifest : Json) :
    (∃ fault, (serve env (.createServer ns name manifest) w).1 = .error fault ∧
        (serve env (.createServer ns name manifest) w).2.cluster = w.cluster) ∨
      ((serve env (.createServer ns name manifest) w).1 = .ok () ∧
        w.cluster.get ns name = none ∧
        (serve env (.createServer ns name manifest) w).2.cluster.get ns name ≠ none) := by
  unfold serve
  cases env.faults w.log.length (.createServer ns name manifest) with
  | some fault => exact .inl ⟨fault, rfl, rfl⟩
  | none =>
    dsimp only [answer]
    cases hget : w.cluster.get ns name with
    | some x => exact .inl ⟨.status 409, by simp [Cluster.createServer, hget]⟩
    | none =>
      by_cases hid : Identified ns name (storedServer ns (toString w.log.length) manifest)
      · right
        rw [Cluster.createServer_of_none hget hid]
        refine ⟨rfl, rfl, fun hnone => ?_⟩
        have hset := Cluster.get_set w.cluster ns name
          (.created (storedServer ns (toString w.log.length) manifest)) hid
        exact Option.some_ne_none _ (hset.symm.trans hnone)
      · have hrefused : w.cluster.createServer (toString w.log.length) ns name manifest =
            (.error (.status 422), w.cluster) := by
          unfold Cluster.createServer
          rw [hget]
          exact dif_neg hid
        exact .inl ⟨.status 422, congrArg Prod.fst hrefused, congrArg Prod.snd hrefused⟩

theorem serve_deleteServer_error {forced : Bool} {fault : Fault}
    (h : (serve env (.deleteServer ns name forced) w).1 = .error fault) :
    (serve env (.deleteServer ns name forced) w).2.cluster = w.cluster := by
  unfold serve at h ⊢
  cases hfault : env.faults w.log.length (.deleteServer ns name forced) with
  | some fault' => rfl
  | none =>
    rw [hfault] at h
    dsimp only [answer, Cluster.deleteServer] at h ⊢
    cases hget : w.cluster.get ns name with
    | none => rfl
    | some x =>
      rw [hget] at h
      cases h

end Served

section Interleavings

variable {ι : Type} [DecidableEq ι] {api : Api} {name : String} {requests : ι → LaunchRequest}
  {m : Move ι} {s : RequestPool ι}

theorem stageAfter_concat (i : ι) (trace : List (Event ι Call Call.Reply))
    (e : Event ι Call Call.Reply) :
    stageAfter i (trace ++ [e]) =
      if e.thread = i then (stageAfter i trace).next e.call e.reply else stageAfter i trace := by
  unfold stageAfter
  rw [List.foldl_append]
  rfl

omit [DecidableEq ι] in
theorem creator_concat (ns name : String) (trace : List (Event ι Call Call.Reply))
    (e : Event ι Call Call.Reply) :
    creator ns name (trace ++ [e]) = creatorAfter ns name (creator ns name trace) e := by
  unfold creator
  rw [List.foldl_append]
  rfl

/-- The launch has created the server and has not deleted it. -/
def LaunchStage.Owns (q : LaunchStage) : Prop := q = .created ∨ q = .cleaning

/-- The launches obey the protocol, and what a launch has created is still there, and its own. -/
structure OwnersKnown (ns name : String) (s : RequestPool ι) : Prop where
  obedient : s.Obedient (launchProtocol ns name) (fun _ => .searching) (fun _ _ => True) Stopped
  owned : ∀ i, (stageAfter i s.trace).Owns →
    creator ns name s.trace = some i ∧ s.state.cluster.get ns name ≠ none

/-- A call that changes neither the cluster nor who has created the server. -/
theorem OwnersKnown.kept {ns : String} (hs : OwnersKnown ns name s) {i : ι} {c : Call}
    {reply : c.Reply} (hcreator : ∀ creator : Option ι,
      creatorAfter ns name creator ⟨i, c, reply⟩ = creator)
    (hstage : ((stageAfter i s.trace).next c reply).Owns → (stageAfter i s.trace).Owns)
    (j : ι) (hj : (stageAfter j (s.trace ++ [⟨i, c, reply⟩])).Owns) :
    creator ns name (s.trace ++ [⟨i, c, reply⟩]) = some j ∧
      s.state.cluster.get ns name ≠ none := by
  rw [creator_concat, hcreator]
  rw [stageAfter_concat] at hj
  split at hj
  · next hij =>
    obtain rfl : i = j := hij
    exact hs.owned i (hstage hj)
  · exact hs.owned j hj

theorem stage_of_cleaning {q : LaunchStage} {c : Call} {reply : c.Reply}
    (h : q.next c reply = .cleaning) : q = .cleaning ∨ c.cleanedUp reply = true := by
  cases c with
  | createServer ns name manifest =>
    cases reply with
    | error fault => exact .inl h
    | ok _ => cases h
  | deleteServer ns name forced =>
    cases reply with
    | error fault => exact .inl h
    | ok _ => cases h
  | postSecret payload =>
    unfold LaunchStage.next at h
    dsimp only at h
    split at h
    · next hfailed => exact .inr hfailed
    · exact .inl h
  | _ => exact .inl h

/-- What the protocol assumes of a reply. -/
theorem CleansUpOwn.assumed (hm : CleansUpOwn api m s) {c : Call}
    {k : c.Reply → Service Response} (hi : s.threads m.1 = .call c k) :
    (launchProtocol api.client.preferredNamespace name).assumed (stageAfter m.1 s.trace) c
      (serve m.2 c s.state).1 := by
  refine ⟨?_, hm.place c k hi⟩
  intro hnext hsearching
  rw [hsearching] at hnext
  obtain hcleaning | hfailed := stage_of_cleaning hnext
  · cases hcleaning
  · rw [hm.secrets c k hi hfailed] at hsearching
    cases hsearching

theorem OwnersKnown.deletes_own {ns : String} (hs : OwnersKnown ns name s) :
    DeletesOnlyOwn m s := by
  intro ns' name' forced k hi _
  obtain hlook | hpost | ⟨-, manifest, hcreate⟩ | ⟨hstage, hdelete⟩ := hs.obedient.allowed hi
  · exact hlook.elim
  · exact hpost.elim
  · cases hcreate
  · cases hdelete
    exact (hs.owned m.1 (.inr hstage)).1

/-- Once a launch has created the server, no other one owns one. -/
theorem OwnersKnown.created {ns : String} (hs : OwnersKnown ns name s) {i : ι} {manifest : Json}
    (habsent : s.state.cluster.get ns name = none) (j : ι)
    (hj : (stageAfter j (s.trace ++ [⟨i, .createServer ns name manifest, .ok ()⟩])).Owns) :
    creator ns name (s.trace ++ [⟨i, .createServer ns name manifest, .ok ()⟩]) = some j := by
  rw [creator_concat]
  rw [stageAfter_concat] at hj
  split at hj
  · next hij =>
    obtain rfl : i = j := hij
    exact if_pos rfl
  · exact absurd habsent (hs.owned j hj).2

/-- After its own deletion, no launch owns a server. -/
theorem OwnersKnown.deleted {ns : String} (hs : OwnersKnown ns name s) {i : ι}
    (hi : (stageAfter i s.trace).Owns) (j : ι) :
    ¬ (stageAfter j (s.trace ++ [⟨i, .deleteServer ns name true, .ok ()⟩])).Owns := by
  rw [stageAfter_concat]
  split
  · rintro (hstage | hstage) <;> cases hstage
  · next hij =>
    intro hj
    have hsame := (hs.owned i hi).1.symm.trans (hs.owned j hj).1
    exact hij (Option.some.inj hsame)

theorem OwnersKnown.step (hs : OwnersKnown api.client.preferredNamespace name s)
    (hm : CleansUpOwn api m s) :
    OwnersKnown api.client.preferredNamespace name (serveNext m s) := by
  obtain hsame | ⟨c, k, hi⟩ := s.step_cases (serve m.2) m.1
  · unfold serveNext
    rw [hsame]
    exact hs
  have hstep : serveNext m s = s.served (serve m.2) m.1 c k := Pool.step_of_call hi
  rw [hstep]
  refine ⟨hs.obedient.served hi (hm.assumed hi), ?_⟩
  intro j hj
  unfold Pool.served at hj ⊢
  dsimp only at hj ⊢
  obtain hlook | hpost | ⟨-, manifest, rfl⟩ | ⟨hstage, rfl⟩ := hs.obedient.allowed hi
  · rw [serve_lookup_cluster c hlook]
    apply hs.kept _ _ j hj
    · intro creator
      cases c <;> first | rfl | exact hlook.elim
    · intro hnext
      rwa [LaunchStage.next_lookUp _ hlook] at hnext
  · cases c with
    | postSecret payload =>
      rw [congrArg (fun out => out.2.cluster) (serve_postSecret payload s.state)]
      apply hs.kept (fun _ => rfl) _ j hj
      intro hnext
      unfold LaunchStage.next at hnext
      dsimp only at hnext
      split at hnext
      · next hfailed => exact .inl (hm.secrets _ k hi hfailed)
      · exact hnext
    | _ => exact hpost.elim
  · obtain ⟨fault, herror, hcluster⟩ | ⟨hok, habsent, hpresent⟩ :=
      serve_createServer m.2 s.state api.client.preferredNamespace name manifest
    · rw [herror] at hj ⊢
      rw [hcluster]
      exact hs.kept (fun _ => rfl) id j hj
    · rw [hok] at hj ⊢
      exact ⟨hs.created habsent j hj, hpresent⟩
  · cases hreply : (serve m.2 (.deleteServer api.client.preferredNamespace name true) s.state).1 with
    | error fault =>
      rw [hreply] at hj
      rw [serve_deleteServer_error _ _ _ _ hreply]
      exact hs.kept (fun _ => rfl) id j hj
    | ok _ =>
      rw [hreply] at hj
      exact absurd hj (hs.deleted (.inr hstage) j)

theorem launchPool_ownersKnown (hname : ∀ i, (requests i).name = name) (w : World) :
    OwnersKnown api.client.preferredNamespace name (launchPool api requests w) := by
  refine ⟨?_, ?_⟩
  · intro i
    rw [← hname i]
    exact launch_obeys (requests i)
  · rintro i (hstage | hstage) <;> cases hstage

/-- As long as only launches that have created the server clean up after their secrets, and are
then shown no servers from elsewhere, each launch deletes only what it has created. -/
theorem launches_delete_own (hname : ∀ i, (requests i).name = name) {schedule : List (Move ι)}
    {w : World}
    (h : Runs.Along serveNext (CleansUpOwn api) schedule (launchPool api requests w)) :
    Runs.Along serveNext DeletesOnlyOwn schedule (launchPool api requests w) :=
  Runs.Along.of_step (fun _ _ hs hm => ⟨hs.deletes_own, hs.step hm⟩)
    (launchPool_ownersKnown hname w) h

end Interleavings

/-! ### Two launches with a user secret -/

section Sample

def twoLaunches : RequestPool Bool :=
  launchPool (sampleApi none) (fun _ => sampleLaunch (some sampleSecrets)) ⟨.empty, []⟩

def twoPrograms : RequestPool Bool where
  state := ⟨.empty, []⟩
  threads := fun _ => sampleProgram (some sampleSecrets)
  trace := []

theorem twoLaunches_eq : twoLaunches = twoPrograms := by
  simp only [twoLaunches, launchPool, sampleLaunch_program, twoPrograms]

/-- The secrets of the second launch are refused. -/
def secretsRefused (refused : Bool) (i : Bool) : Move Bool :=
  (i, if i = refused then badGateway (some .null) else calmEnv)

def cleansUpOwnNext (api : Api) (m : Move Bool) (s : RequestPool Bool) : Bool :=
  match s.threads m.1 with
  | .call c _ =>
    (!c.cleanedUp (serve m.2 c s.state).1 || stageAfter m.1 s.trace = .created) &&
      (stageAfter m.1 s.trace ≠ .cleaning || (c.shown (serve m.2 c s.state).1).all
        (InNamespace api.client.preferredNamespace ·))
  | _ => true

theorem cleansUpOwn_of_next {api : Api} {m : Move Bool} {s : RequestPool Bool}
    (h : cleansUpOwnNext api m s = true) : CleansUpOwn api m s := by
  constructor
  · intro c k hi hfailed
    unfold cleansUpOwnNext at h
    simp only [hi, hfailed, Bool.and_eq_true, Bool.not_true, Bool.false_or,
      decide_eq_true_eq] at h
    exact h.1
  · intro c k hi hcleaning server hserver
    unfold cleansUpOwnNext at h
    simp only [hi, hcleaning, Bool.and_eq_true, ne_eq, not_true_eq_false, decide_false,
      Bool.false_or, List.all_eq_true, decide_eq_true_eq] at h
    exact h.2 server hserver

def deletesNext : Service Response → Option (String × String × Bool)
  | .call (.deleteServer ns name forced) _ => some (ns, name, forced)
  | _ => none

/-- A launch is about to delete the server of another one. -/
def DeletesOther (m : Move Bool) (s : RequestPool Bool) (ns name : String) : Prop :=
  deletesNext (s.threads m.1) = some (ns, name, true) ∧
    (serve m.2 (.deleteServer ns name true) s.state).1 = .ok () ∧
    creator ns name s.trace ≠ some m.1

theorem DeletesOther.not_own {m : Move Bool} {s : RequestPool Bool} {ns name : String}
    (h : DeletesOther m s ns name) : ¬DeletesOnlyOwn m s := by
  obtain ⟨hdeletes, hdeleted, hother⟩ := h
  intro hown
  unfold deletesNext at hdeletes
  split at hdeletes
  · next k hk =>
    cases hdeletes
    exact hother (hown ns name true k hk hdeleted)
  · cases hdeletes

/-- The first launch creates the server, its secret is refused, and it deletes the server, while
the second one has looked once. -/
theorem creator_deletes_own :
    Runs.Along serveNext DeletesOnlyOwn
      ([false, true, true, true, true, true, true, true].map (secretsRefused true)) twoLaunches := by
  have hchecked : Runs.Along serveNext (fun m s => cleansUpOwnNext (sampleApi none) m s = true)
      ([false, true, true, true, true, true, true, true].map (secretsRefused true))
      twoLaunches := by
    rw [twoLaunches_eq]
    decide +kernel
  have hclean : Runs.Along serveNext (CleansUpOwn (sampleApi none))
      ([false, true, true, true, true, true, true, true].map (secretsRefused true)) twoLaunches :=
    Runs.Along.of_step (I := fun _ => True) (fun _ _ _ h => ⟨cleansUpOwn_of_next h, trivial⟩)
      trivial hchecked
  exact launches_delete_own (fun _ => rfl) hclean

/-- The second launch has looked once before the first one creates the server and once after, and
its secret is refused. -/
def lateCleanup : RequestPool Bool :=
  Runs.final serveNext ([false, true, true, true, true, true, false, false, false].map
    (secretsRefused false)) twoLaunches

/-- It deletes the server of the first launch. -/
theorem late_launch_deletes_other :
    ¬Runs.Along serveNext DeletesOnlyOwn
      ([false, true, true, true, true, true, false, false, false].map (secretsRefused false) ++
        [secretsRefused false false]) twoLaunches := by
  intro h
  have hother : DeletesOther (secretsRefused false false) lateCleanup "renku" "jane-1" := by
    rw [DeletesOther, lateCleanup, twoLaunches_eq]
    decide +kernel
  exact hother.not_own (Runs.along_append.mp h).2.1

end Sample

end RenkuNotebooks.Notebooks
