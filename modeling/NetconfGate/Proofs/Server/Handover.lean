import NetconfGate.Proofs.Cipher.Policy
import NetconfGate.Proofs.Server.Lifecycle
import NetconfGate.Secure.Offer

/-!
# What a bind hands to its transport

A bind asks its transport once at the most, with a setup whose ciphers are what
the policy of the server leaves of the transport's own names. An SSH transport
offers a part of its names in turn, and refuses a setup that it can offer nothing
with. So a weak cipher is held back twice, and the two times agree.
-/

namespace NetconfGate

namespace Secure.Offer

theorem allowed_eq_nil_iff {s : Setup} :
    allowed s = [] ↔ ∀ name ∈ ownCiphers, name ∉ s.ciphers := by
  simp only [List.eq_nil_iff_forall_not_mem, mem_allowed, not_and]

/-- Without a cipher or without a key a setup is refused, and for no other
reason. -/
theorem ofSetup_cases (s : Setup) :
    (∃ reason, ofSetup s = .error (.configuration reason)) ∧
        ((∀ name ∈ ownCiphers, name ∉ s.ciphers) ∨ s.hostKeys = []) ∨
      ofSetup s = .ok ⟨allowed s, s.hostKeys⟩ ∧
        ¬ ((∀ name ∈ ownCiphers, name ∉ s.ciphers) ∨ s.hostKeys = []) := by
  rw [← allowed_eq_nil_iff, not_or]
  unfold ofSetup
  cases ciphers : allowed s with
  | nil => exact .inl ⟨⟨noCiphers, rfl⟩, .inl rfl⟩
  | cons first rest =>
      cases keys : s.hostKeys with
      | nil => exact .inl ⟨⟨noHostKeys, rfl⟩, .inr rfl⟩
      | cons key more => exact .inr ⟨rfl, List.cons_ne_nil _ _, List.cons_ne_nil _ _⟩

theorem refused_iff {s : Setup} :
    (∃ reason, ofSetup s = .error (.configuration reason)) ↔
      (∀ name ∈ ownCiphers, name ∉ s.ciphers) ∨ s.hostKeys = [] := by
  rcases ofSetup_cases s with ⟨refused, lacks⟩ | ⟨offered, lacks⟩
  · exact iff_of_true refused lacks
  · refine iff_of_false ?_ lacks
    rintro ⟨reason, refused⟩
    rw [offered] at refused
    cases refused

theorem eq_allowed {s : Setup} {offer : Offer} (offered : ofSetup s = .ok offer) :
    offer.ciphers = allowed s := by
  rcases ofSetup_cases s with ⟨⟨reason, refused⟩, _⟩ | ⟨same, _⟩
  · rw [refused] at offered
    cases offered
  · rw [same] at offered
    cases offered
    rfl

/-- What a policy leaves of the own names is offered as it is. -/
theorem allowed_of_leaves {policy : CipherPolicy} {s : Setup}
    (leaves : policy.Leaves ownCiphers s.ciphers) : allowed s = s.ciphers := by
  have left := leaves.eq_filtered
  rw [allowed, left]
  refine List.filter_congr fun name own => ?_
  rw [Bool.eq_iff_iff, List.contains_iff_mem, CipherPolicy.mem_filtered, Bool.not_eq_true']
  exact ⟨And.right, And.intro own⟩

end Secure.Offer

namespace Server

open Channel

variable {α : Type}

/-- The setup that the transport is asked about, if that is what is told. -/
def Note.setup? : Note → Option Secure.Setup
  | .configuring setup => some setup
  | _ => none

/-- All that a bind asked its transport about. -/
def Report.handed (report : Report) : List Secure.Setup := report.notes.filterMap Note.setup?

theorem setup?_key (notes : List HostKey.Note) : (notes.map Note.key).filterMap Note.setup? = [] := by
  rw [List.filterMap_map, List.filterMap_eq_nil_iff]
  exact fun _ _ => rfl

theorem setup?_channel (notes : List Channel.Note) :
    (notes.map Note.channel).filterMap Note.setup? = [] := by
  rw [List.filterMap_map, List.filterMap_eq_nil_iff]
  exact fun _ _ => rfl

theorem handed_listen (s : Server) (config : Configuration α HostKey.Source)
    (around : Surroundings) (setup : Secure.Setup) (service : Service) (tree : FileTree) :
    (s.listen config around setup service tree).handed = [] := by
  unfold Report.handed listen
  dsimp only
  split
  · rw [List.filterMap_append, setup?_channel, abandon, setup?_channel]
    rfl
  · rw [List.filterMap_append, setup?_channel]
    rfl

theorem handed_setUp {s : Server} {service : Service} {around : Surroundings}
    (pool : Service.onPool around.pool = .ok service) (config : Configuration α HostKey.Source)
    (timeouts : Timeouts) (keys : List HostKey) (tree : FileTree) :
    (s.setUp config around timeouts keys tree).handed = [s.setupOf around keys timeouts] := by
  have listened := s.handed_listen config around (s.setupOf around keys timeouts) service tree
  unfold Report.handed at listened
  unfold Report.handed setUp
  rw [pool]
  dsimp only
  split
  · dsimp only [List.filterMap_cons, Note.setup?]
    rw [abandon, setup?_channel]
  · dsimp only [List.filterMap_cons, Note.setup?]
    rw [listened]

/-- The stages before the transport do not look at it, and decide whether it is
asked. -/
theorem bind_stages {s : Server} (created : s.lifecycle = .created)
    (config : Configuration α HostKey.Source) (around : Surroundings) :
    match prepare config around with
    | .error _ =>
        (s.bind config around).handed = [] ∧
          ∀ transport, s.bind config { around with transport := transport } = s.bind config around
    | .ok (timeouts, keys) =>
        Service.onPool around.pool = .ok .new ∧
          ∃ told tree, told.filterMap Note.setup? = [] ∧
            ∀ transport,
              let report := s.setUp config { around with transport := transport } timeouts keys tree
              s.bind config { around with transport := transport } =
                { report with notes := told ++ report.notes } := by
  cases usable : config.usableTimeouts with
  | error cause =>
      have first : prepare config around = .error (.configuration cause) := by
        rw [prepare, usable]
        rfl
      simp only [first, bind, created, usable]
      exact ⟨rfl, fun _ => trivial⟩
  | ok timeouts =>
      cases loaded : (config.keySource.load around.mask around.seed around.tree).result with
      | error cause =>
          have second : prepare config around = .error (.hostKey cause) := by
            simp only [prepare, usable, loaded]
            rfl
          simp only [second, bind, created, usable, loaded]
          exact ⟨setup?_key _, fun _ => trivial⟩
      | ok keys =>
          cases pool : Service.onPool around.pool with
          | error cause =>
              have third : prepare config around = .error (.resources cause) := by
                simp only [prepare, usable, loaded, pool]
                rfl
              simp only [third, bind, created, usable, loaded, setUp, pool, Report.handed,
                List.append_nil]
              exact ⟨setup?_key _, fun _ => trivial⟩
          | ok service =>
              have prepared : prepare config around = .ok (timeouts, keys) := by
                simp only [prepare, usable, loaded, pool]
                rfl
              obtain ⟨_, rfl⟩ := (Service.onPool_eq_ok_iff _ _).mp pool
              simp only [prepared, bind, created, usable, loaded]
              exact ⟨trivial, _, _, setup?_key _, fun _ => rfl⟩

/-- The stages before the transport decide whether it is asked, and about what. -/
theorem handed_bind (s : Server) (config : Configuration α HostKey.Source)
    (around : Surroundings) :
    (s.bind config around).handed =
      match s.lifecycle, prepare config around with
      | .created, .ok (timeouts, keys) => [s.setupOf around keys timeouts]
      | _, _ => [] := by
  cases state : s.lifecycle with
  | bound | closed => simp [Report.handed, bind, state]
  | created =>
      have stages := bind_stages state config around
      cases prepared : prepare config around with
      | error cause =>
          rw [prepared] at stages
          exact stages.1
      | ok ready =>
          rw [prepared] at stages
          obtain ⟨pool, told, tree, silent, same⟩ := stages
          have handed := handed_setUp (s := s) pool config ready.1 ready.2 tree
          unfold Report.handed at handed
          rw [Report.handed, same around.transport, List.filterMap_append, silent]
          exact handed

theorem leaves_of_handed {s : Server} {config : Configuration α HostKey.Source}
    {around : Surroundings} {setup : Secure.Setup}
    (handed : setup ∈ (s.bind config around).handed) :
    s.policy.Leaves around.ciphers setup.ciphers := by
  rw [handed_bind] at handed
  split at handed
  · rw [List.mem_singleton.mp handed]
    exact s.policy.leaves_filtered around.ciphers
  · cases handed

/-- A transport that answers the same on what it is asked makes no difference. -/
theorem bind_congr {s : Server} {config : Configuration α HostKey.Source} {around : Surroundings}
    {transport : Secure.Setup → Except Channel.Error Unit}
    (agrees : ∀ setup ∈ (s.bind config around).handed, transport setup = around.transport setup) :
    s.bind config { around with transport := transport } = s.bind config around := by
  cases state : s.lifecycle with
  | bound | closed => simp only [bind, state]
  | created =>
      have stages := bind_stages state config around
      rw [handed_bind, state] at agrees
      cases prepared : prepare config around with
      | error cause =>
          rw [prepared] at stages
          exact stages.2 transport
      | ok ready =>
          rw [prepared] at stages agrees
          obtain ⟨_, _, _, _, same⟩ := stages
          have answer := agrees _ List.mem_cons_self
          rw [same transport]
          refine Eq.trans ?_ (same around.transport).symm
          have setUp (tree : FileTree) :
              s.setUp config { around with transport := transport } ready.1 ready.2 tree =
                s.setUp config around ready.1 ready.2 tree := by
            simp only [Server.setUp, setupOf, listen] at answer ⊢
            rw [answer]
          rw [setUp]

/-- A setup that the transport refuses leaves the server as it was created. -/
theorem bind_of_refused {s : Server} {config : Configuration α HostKey.Source}
    {around : Surroundings} {setup : Secure.Setup}
    (handed : setup ∈ (s.bind config around).handed) {cause : Channel.Error}
    (refused : around.transport setup = .error cause) :
    (s.bind config around).result = .error (.transport cause) ∧
      (s.bind config around).server.lifecycle = .created := by
  rw [handed_bind] at handed
  cases state : s.lifecycle with
  | bound | closed =>
      rw [state] at handed
      cases handed
  | created =>
      cases prepared : prepare config around with
      | error failed =>
          rw [state, prepared] at handed
          cases handed
      | ok ready =>
          rw [state, prepared] at handed
          rw [List.mem_singleton.mp handed] at refused
          have failed : outcome s.policy config around = .error (.transport cause) := by
            rw [outcome, prepared]
            change establish s.policy config around ready.1 ready.2 = _
            unfold establish
            change ((around.transport (s.setupOf around ready.2 ready.1)).mapError _ >>= _) = _
            rw [refused]
            rfl
          obtain ⟨result, server⟩ := report_bind state config around
          rw [failed] at result server
          exact ⟨result, server.1⟩

/--
Weak ciphers do not reach a client, whatever is excluded in addition to the two
that always are, and whatever was asked of the server before.

A bind hands its transport, if it comes to it, one setup, with what the policy
leaves of the transport's names, and asks it nothing else.  An SSH transport
offers of any setup those of its own names that are in it, and of what the policy
leaves of its names all.  It refuses a setup without any of its names or without
a host key, and no other.  When the transport refuses the bind fails, and the
server is as it was created.
-/
theorem ciphers_bind (chain : List (List String)) (calls : List (Call α))
    (config : Configuration α HostKey.Source) (around : Surroundings) :
    let policy := CipherPolicy.default.excludingAll chain
    let s := (new policy).run calls
    let report := s.bind config around
    policy.excluded = ["arcfour128", "arcfour256"] ++ chain.flatten ∧
    (match s.lifecycle, prepare config around with
      | .created, .ok (timeouts, keys) =>
          ∃ left, policy.Leaves around.ciphers left ∧
            report.handed = [⟨left, keys, timeouts, [Bridge.subsystem]⟩]
      | _, _ => report.handed = []) ∧
    (∀ transport, (∀ setup ∈ report.handed, transport setup = around.transport setup) →
      s.bind config { around with transport := transport } = report) ∧
    (∀ setup ∈ report.handed, ∀ cause, around.transport setup = .error cause →
      report.result = .error (.transport cause) ∧ report.server.lifecycle = .created) ∧
    (∀ setup,
      let lacks := (∀ name ∈ Secure.ownCiphers, name ∉ setup.ciphers) ∨ setup.hostKeys = []
      ((∃ reason, Secure.Offer.ofSetup setup = .error (.configuration reason)) ↔ lacks) ∧
      (¬ lacks → ∃ offer, Secure.Offer.ofSetup setup = .ok offer ∧
        offer.ciphers.Sublist Secure.ownCiphers ∧
        (∀ name, name ∈ offer.ciphers ↔ name ∈ Secure.ownCiphers ∧ name ∈ setup.ciphers) ∧
        (setup.ciphers = policy.filtered Secure.ownCiphers → offer.ciphers = setup.ciphers))) ∧
    (around.ciphers = Secure.ownCiphers →
      around.transport = (fun setup => (Secure.Offer.ofSetup setup).map fun _ => ()) →
      ∀ setup ∈ report.handed,
        match Secure.Offer.ofSetup setup with
        | .error cause =>
            report.result = .error (.transport cause) ∧ report.server.lifecycle = .created
        | .ok offer =>
            offer.ciphers = setup.ciphers ∧ ∀ name ∈ offer.ciphers, policy.Allows name) := by
  intro policy s report
  have kept : s.policy = policy := policy_run _ calls
  refine ⟨CipherPolicy.default.excluded_excludingAll chain, ?handed, fun _ => bind_congr,
    fun _ handed _ refused => bind_of_refused handed refused, ?offers, ?overSsh⟩
  case handed =>
    have handed := handed_bind s config around
    split
    · rename_i timeouts keys created prepared
      rw [created, prepared] at handed
      refine ⟨s.policy.filtered around.ciphers, ?_, handed⟩
      rw [kept]
      exact policy.leaves_filtered around.ciphers
    · rename_i apart
      rw [handed]
      split
      · rename_i timeouts keys created prepared
        exact (apart timeouts keys created prepared).elim
      · rfl
  case offers =>
    intro setup lacks
    refine ⟨Secure.Offer.refused_iff, fun offers => ?_⟩
    rcases Secure.Offer.ofSetup_cases setup with ⟨_, refused⟩ | ⟨offered, _⟩
    · exact absurd refused offers
    · refine ⟨_, offered, List.filter_sublist, fun name => Secure.Offer.mem_allowed, fun same => ?_⟩
      exact Secure.Offer.allowed_of_leaves (same ▸ policy.leaves_filtered Secure.ownCiphers)
  case overSsh =>
    intro own transport setup handed
    have answer := congrFun transport setup
    split
    · rename_i cause refused
      rw [refused] at answer
      exact bind_of_refused handed answer
    · rename_i offer offered
      have leaves : policy.Leaves Secure.ownCiphers setup.ciphers := by
        rw [← own, ← kept]
        exact leaves_of_handed handed
      have same : offer.ciphers = setup.ciphers :=
        (Secure.Offer.eq_allowed offered).trans (Secure.Offer.allowed_of_leaves leaves)
      exact ⟨same, same ▸ leaves.excluded⟩

end Server

end NetconfGate
