/-
# Clients sign with the keys that have to sign, and with no others

Who signs a transaction is decided in two places that know nothing of each other.  A client puts
the keypairs together by hand: the payer, and for some commands one partner.  The message counts
the keys that have to sign: every key that pays or that some instruction names as a signer.
Signing fails if the one list has a key that the other lacks.

The two agree on every command (`Client.signers_exact`), whichever of the keys are the same.  The
keypairs are read off the record that a session keeps of what it has signed.  Of the signer no
more is used than what it promises (`Signer.Documented`), and the usual one keeps this promise
(`Signer.documented`).

* Joining uses forgets none of them: a key has to sign exactly if it pays or if some instruction
  names it as a signer (`Message.mem_required_iff`).
* No builder names a signer but the payer and the partner, and each is named where it is needed
  (`Client.Job.signers_instructions`).
* A partner who is the payer is left out, so no key signs twice.
-/
import Vesting.Client
import Vesting.Proofs.Effect
import Vesting.Proofs.Session

namespace Vesting

/-! ## 1. The keys that have to sign -/

/-- One of the uses of the key signs. -/
def AccountMeta.Signs (key : Key) (uses : List AccountMeta) : Prop :=
  ∃ use ∈ uses, use.key = key ∧ use.signer = true

namespace Message

open AccountMeta

variable {key payer : Key} {use : AccountMeta} {uses joinedUses : List AccountMeta}
  {ixs : List Instruction}

theorem signs_cons :
    Signs key (use :: uses) ↔ (use.key = key ∧ use.signer = true) ∨ Signs key uses := by
  simp [Signs]

/-- A use that is joined is not forgotten, and adds no other. -/
theorem signs_join : Signs key (join use uses) ↔ Signs key (use :: uses) := by
  induction uses with
  | nil => rfl
  | cons first rest ih =>
    rw [join]
    split
    · rename_i hsame
      simp only [signs_cons, Bool.or_eq_true, hsame, ← or_assoc, ← and_or_left]
      rw [or_comm (a := first.signer = true)]
    · simp only [signs_cons, ih]
      exact or_left_comm

theorem signs_foldl_join : Signs key (uses.foldl (fun ms use => join use ms) joinedUses) ↔
    Signs key joinedUses ∨ Signs key uses := by
  induction uses generalizing joinedUses with
  | nil => simp [Signs]
  | cons use rest ih =>
    rw [List.foldl_cons, ih, signs_join, signs_cons, signs_cons, or_assoc, or_left_comm]

theorem signs_joined : Signs key (joined payer uses) ↔ key ≠ payer ∧ Signs key uses := by
  have hperm : Signs key (joined payer uses) ↔
      Signs key ((uses.filter fun m => m.key ≠ payer).foldl (fun ms use => join use ms) []) := by
    simp only [Signs, joined, List.mem_mergeSort]
  rw [hperm, signs_foldl_join]
  constructor
  · rintro (⟨use, hmem, -⟩ | ⟨use, hmem, rfl, hsigner⟩)
    · cases hmem
    · obtain ⟨huse, hne⟩ := List.mem_filter.1 hmem
      exact ⟨of_decide_eq_true hne, use, huse, rfl, hsigner⟩
  · rintro ⟨hne, use, huse, rfl, hsigner⟩
    exact .inr ⟨use, List.mem_filter.2 ⟨huse, decide_eq_true hne⟩, rfl, hsigner⟩

/-- Signers are joined with the payer and with programs, which only run. -/
theorem signs_uses : Signs key (Instruction.uses payer ixs) ↔
    key = payer ∨ ∃ ix ∈ ixs, key ∈ ix.signers := by
  rw [Instruction.uses, signs_cons]
  simp only [Signs, Instruction.signers, List.mem_flatMap, List.mem_append, List.mem_singleton,
    List.mem_map, List.mem_filter]
  constructor
  · rintro (⟨rfl, -⟩ | ⟨use, ⟨ix, hix, huse | rfl⟩, rfl, hsigner⟩)
    · exact .inl rfl
    · exact .inr ⟨ix, hix, use, ⟨huse, hsigner⟩, rfl⟩
    · cases hsigner
  · rintro (rfl | ⟨ix, hix, use, ⟨huse, hsigner⟩, rfl⟩)
    · exact .inl ⟨rfl, trivial⟩
    · exact .inr ⟨use, ⟨ix, hix, .inl huse⟩, rfl, hsigner⟩

/-- The keys that have to sign stand first in a message, and all others behind them. -/
theorem required_compile (payer : Key) (ixs : List Instruction) :
    (compile payer ixs).required = payer ::
      (let uses := joined payer (Instruction.uses payer ixs)
      uses.filter (fun m => m.signer = true ∧ m.writable = true)
        ++ uses.filter fun m => m.signer = true ∧ m.writable = false).map AccountMeta.key := by
  rw [required, compile]
  simp only
  rw [Nat.add_assoc, Nat.add_comm 1, List.take_succ_cons, List.append_assoc (_ ++ _),
    ← List.map_take, List.take_left' (List.length_append)]

/-- **A key has to sign exactly if it pays or if an instruction names it as a signer.** -/
theorem mem_required_iff : key ∈ (compile payer ixs).required ↔
    key = payer ∨ ∃ ix ∈ ixs, key ∈ ix.signers := by
  rw [← signs_uses, required_compile]
  simp only [List.mem_cons, List.mem_map, List.mem_append, List.mem_filter, decide_eq_true_eq]
  constructor
  · rintro (rfl | ⟨use, ⟨huse, hsigner, -⟩ | ⟨huse, hsigner, -⟩, rfl⟩)
    · exact signs_uses.2 (.inl rfl)
    · exact (signs_joined.1 ⟨use, huse, rfl, hsigner⟩).2
    · exact (signs_joined.1 ⟨use, huse, rfl, hsigner⟩).2
  · intro hsigns
    by_cases hpayer : key = payer
    · exact .inl hpayer
    · obtain ⟨use, huse, rfl, hsigner⟩ := signs_joined.2 ⟨hpayer, hsigns⟩
      cases hwritable : use.writable with
      | true => exact .inr ⟨use, .inl ⟨huse, hsigner, hwritable⟩, rfl⟩
      | false => exact .inr ⟨use, .inr ⟨huse, hsigner, hwritable⟩, rfl⟩

/-- Signing fails on a keypair that does not have to sign, or else for want of one that has to. -/
theorem sign_error {m : Message} {pairs : List Keypair} {why : Fault}
    (h : m.sign pairs = .error why) :
    (why = .unsigned .foreign ∧ ∃ pair ∈ pairs, pair.key ∉ m.required) ∨
      (why = .unsigned .notEnough ∧ ∃ key ∈ m.required, ∀ pair ∈ pairs, pair.key ≠ key) := by
  unfold sign at h
  dsimp only at h
  split at h
  · rename_i hforeign
    cases h
    obtain ⟨key, hkey, hmissing⟩ := List.any_eq_true.1 hforeign
    obtain ⟨pair, hpair, rfl⟩ := List.mem_map.1 hkey
    exact .inl ⟨rfl, pair, hpair, by simpa using hmissing⟩
  · split at h
    · rename_i hlacking
      cases h
      obtain ⟨key, hkey, hmissing⟩ := List.any_eq_true.1 hlacking
      exact .inr ⟨rfl, key, hkey, by simpa using hmissing⟩
    · cases h

end Message

/-- What a signer promises. -/
structure Signer.Documented (s : Signer) : Prop where
  /-- Those have to sign a message who pay or whom an instruction names as a signer. -/
  required_iff : ∀ payer ixs key, key ∈ (s.compile payer ixs).required ↔
    key = payer ∨ ∃ ix ∈ ixs, key ∈ ix.signers
  /-- Signing fails on a keypair that does not have to sign, or for want of one that has to. -/
  sign_error : ∀ message pairs why, s.sign message pairs = .error why →
    (why = .unsigned .foreign ∧ ∃ pair ∈ pairs, pair.key ∉ message.required) ∨
      (why = .unsigned .notEnough ∧ ∃ key ∈ message.required, ∀ pair ∈ pairs, pair.key ≠ key)

/-- The usual signer does what it promises. -/
theorem Signer.documented : ({} : Signer).Documented where
  required_iff _ _ _ := Message.mem_required_iff
  sign_error _ _ _ := Message.sign_error

/-- The keypairs of exactly those who have to sign a message go through. -/
theorem Signer.Documented.sign_eq_ok {s : Signer} (h : s.Documented) {message : Message}
    {pairs : List Keypair} (hpairs : ∀ key, key ∈ pairs.map Keypair.key ↔ key ∈ message.required) :
    s.sign message pairs = .ok () := by
  cases hsign : s.sign message pairs with
  | ok u => rfl
  | error why =>
    exfalso
    obtain ⟨-, pair, hpair, hforeign⟩ | ⟨-, key, hkey, hlacking⟩ := h.sign_error _ _ _ hsign
    · exact hforeign ((hpairs _).1 (List.mem_map.2 ⟨pair, hpair, rfl⟩))
    · obtain ⟨pair, hpair, hsame⟩ := List.mem_map.1 ((hpairs key).2 hkey)
      exact hlacking pair hpair hsame

/-! ## 2. What a client can send -/

/-- Opening an escrow fails in one way only.  The definition is opened apart from its arguments, for
with them it would be computed. -/
theorem Address.error_of_associated {wallet mint : Key} {why : Fault}
    (h : associated wallet mint = .error why) : why = .noAddress := by
  generalize hdef : associated = derive at h
  delta associated at hdef
  subst hdef
  dsimp only at h
  generalize find? _ _ = found at h
  cases found with
  | some found => cases h
  | none =>
    cases h
    rfl

namespace Instruction

theorem error_of_openAssociated {payer wallet mint : Key} {why : Fault}
    (h : openAssociated payer wallet mint = .error why) : why = .noAddress := by
  rw [openAssociated] at h
  rcases bind_eq_error_iff.1 h with haccount | ⟨account, -, h⟩
  · exact Address.error_of_associated haccount
  · cases h

variable (program payer vesting escrow sourceOwner source destination mint owner : Key)
  (seeds : Seeds)

theorem signers_init (count : UInt32) :
    (init program payer vesting seeds count).signers = [payer] := rfl

theorem signers_create (tranches : List Tranche) :
    (create program vesting escrow sourceOwner source destination mint tranches seeds).signers
      = [sourceOwner] := rfl

theorem signers_unlock : (unlock program vesting escrow destination seeds).signers = [] := rfl

theorem signers_changeDestination :
    (changeDestination program vesting owner source destination seeds).signers = [owner] := rfl

end Instruction

namespace Client

/-- A command that a client can be asked to send, with all that it goes by. -/
inductive Job
  /-- Make room for a contract. -/
  | init (seeds : Seeds) (vesting : Key) (count : UInt32)
  /-- Make room for a contract, open its escrow and set it up. -/
  | create (sourceOwner : Keypair) (source destination mint : Key) (tranches : List Tranche)
      (seeds : Seeds) (vesting : Key)
  /-- Pay out what is due of a contract. -/
  | unlock (seeds : Seeds) (vesting : Key)
  /-- Name another destination for a contract. -/
  | changeDestination (owner : Keypair) (target : Key) (seeds : Seeds) (vesting : Key)

namespace Job

/-- Does the job. -/
def run (program : Key) (payer : Keypair) : Job → Session String
  | init seeds vesting count => sendInit program payer seeds vesting count
  | create sourceOwner source destination mint tranches seeds vesting =>
    sendCreate program payer sourceOwner source destination mint tranches seeds vesting
  | unlock seeds vesting => sendUnlock program payer seeds vesting
  | changeDestination owner target seeds vesting =>
    sendChangeDestination program payer owner target seeds vesting

/-- Who is asked to sign beside the payer. -/
def partners : Job → List Keypair
  | create sourceOwner .. => [sourceOwner]
  | changeDestination owner .. => [owner]
  | _ => []

/-- The instructions that are to be signed; some of them go by a contract that is fetched first. -/
def instructions (program payer : Key) : Job → Session (List Instruction)
  | init seeds vesting count => pure [Instruction.init program payer vesting seeds count]
  | create sourceOwner source destination mint tranches seeds vesting =>
    Session.orFail (Instruction.createBundle program payer sourceOwner.key source destination mint
      tranches seeds vesting)
  | unlock seeds vesting => do
    let contract ← fetch vesting
    let escrow ← Session.orFail (Address.associated vesting contract.header.mint)
    return [Instruction.unlock program vesting escrow contract.header.destination seeds]
  | changeDestination owner target seeds vesting => do
    let contract ← fetch vesting
    return [Instruction.changeDestination program vesting owner.key contract.header.destination
      target seeds]

variable {program : Key} {payer : Keypair}

/-- Every job ends with signing its instructions. -/
theorem run_eq (job : Job) :
    job.run program payer = job.instructions program payer.key >>= send payer job.partners := by
  cases job with
  | init => rfl
  | create => rfl
  | unlock =>
    simp only [run, sendUnlock, instructions, bind_assoc, pure_bind, partners]
  | changeDestination =>
    simp only [run, sendChangeDestination, instructions, bind_assoc, pure_bind, partners]

/-- **No instruction asks for a signer but the payer and the partner**, and the partner is asked. -/
theorem signers_instructions (job : Job) : (job.instructions program payer.key).Ensures fun ixs =>
    ∀ key, (key = payer.key ∨ ∃ ix ∈ ixs, key ∈ ix.signers) ↔
      key = payer.key ∨ ∃ partner ∈ job.partners, key = partner.key := by
  cases job with
  | init =>
    refine Session.ensures_pure fun key => ?_
    simp only [List.mem_singleton, exists_eq_left, Instruction.signers_init, partners,
      List.not_mem_nil, false_and, exists_false, or_self, or_false]
  | create sourceOwner =>
    rw [instructions]
    refine Session.ensures_orFail fun ixs hixs key => ?_
    rw [Instruction.createBundle] at hixs
    obtain ⟨escrow, -, hixs⟩ := bind_eq_ok_iff.1 hixs
    obtain ⟨count, -, hixs⟩ := bind_eq_ok_iff.1 hixs
    obtain ⟨opening, hopening, hixs⟩ := bind_eq_ok_iff.1 hixs
    simp only [pure, Except.pure, Except.ok.injEq] at hixs
    subst hixs
    simp only [List.mem_cons, List.not_mem_nil, or_false, exists_eq_or_imp, exists_eq_left,
      Instruction.signers_init, Instruction.signers_openAssociated hopening,
      Instruction.signers_create, partners]
    rw [← or_assoc, ← or_assoc, or_self, or_self]
  | unlock =>
    refine Session.ensures_bind fun contract => Session.ensures_bind fun escrow =>
      Session.ensures_pure fun key => ?_
    simp only [List.mem_singleton, exists_eq_left, Instruction.signers_unlock, partners,
      List.not_mem_nil, false_and, exists_false, or_false]
  | changeDestination owner =>
    refine Session.ensures_bind fun contract => Session.ensures_pure fun key => ?_
    simp only [List.mem_singleton, exists_eq_left, Instruction.signers_changeDestination, partners]

end Job

/-! ## 3. The keypairs that sign -/

section Keypairs

variable {payer : Keypair} {others : List Keypair} {key : Key}

/-- A keypair that is left out has the payer's key. -/
theorem mem_signers_iff : key ∈ (signers payer others).map Keypair.key ↔
    key = payer.key ∨ ∃ other ∈ others, key = other.key := by
  rw [signers, List.map_cons, List.mem_cons]
  by_cases hpayer : key = payer.key
  · simp [hpayer]
  · simp only [hpayer, false_or, List.mem_map, List.mem_filter, decide_eq_true_eq]
    constructor
    · rintro ⟨other, ⟨hother, -⟩, rfl⟩
      exact ⟨other, hother, rfl⟩
    · rintro ⟨other, hother, rfl⟩
      exact ⟨other, ⟨hother, hpayer⟩, rfl⟩

/-- The payer signs once, and a single partner cannot sign twice. -/
theorem nodup_signers (payer : Keypair) (job : Job) :
    ((signers payer job.partners).map Keypair.key).Nodup := by
  have halone (partner : Keypair) : ((signers payer [partner]).map Keypair.key).Nodup := by
    by_cases hsame : partner.key = payer.key
    · simp [signers, hsame]
    · simp [signers, hsame, Ne.symm hsame]
  cases job with
  | init => exact List.pairwise_singleton _ _
  | create sourceOwner => exact halone sourceOwner
  | unlock => exact List.pairwise_singleton _ _
  | changeDestination owner => exact halone owner

end Keypairs

/-! ## 4. Signing and sending -/

/-- It is up to the cluster whether a message is signed at all, and to the signer whether it is
sent. -/
theorem run_send (payer : Keypair) (others : List Keypair) (ixs : List Instruction) (m : Machine) :
    (send payer others ixs).run.run m = match m.cluster.closed with
      | some why => (.error (.unreachable why), m)
      | none =>
        let message := m.signer.compile payer.key ixs
        let pairs := signers payer others
        let handed := { m with signings := ⟨message, pairs⟩ :: m.signings }
        match m.signer.sign message pairs with
        | .error why => (.error why, handed)
        | .ok () =>
          let signature := Base58.encode m.cluster.signature
          (.ok signature, { handed with
            calls := .confirm signature :: .send message :: m.calls
            log := .confirmed signature :: m.log }) := by
  have hget : (get : Session Machine).run.run m = (.ok m, m) := rfl
  rw [send, Session.run_bind, hget]
  dsimp only
  cases m.cluster.closed with
  | some why => rfl
  | none =>
    dsimp only
    rw [Session.run_bind, Session.run_sign]
    cases m.signer.sign (m.signer.compile payer.key ixs) (signers payer others) with
    | error why => rfl
    | ok u => rfl

/-- A fault of the signing. -/
def Unsigned (why : Fault) : Prop := ∃ reason, why = .unsigned reason

theorem breaksOnly_fetch (address : Key) :
    (fetch address).BreaksOnly fun why => ¬ Unsigned why := by
  have hpayload (payload : Payload) (why : Fault) (h : payload.bytes = .error why) :
      ¬ Unsigned why := by
    rintro ⟨reason, rfl⟩
    cases payload with
    | raw data => cases h
    | base64 text =>
      rw [Payload.bytes] at h
      split at h
      · cases h
      · cases h
  have hdecode (data : Bytes) (why : Fault) (h : Contract.decode address data = .error why) :
      ¬ Unsigned why := by
    rintro ⟨reason, rfl⟩
    rw [Contract.decode] at h
    split at h
    · cases h
    · cases hheader : Record.header data with
      | ok header =>
        rw [hheader] at h
        cases h
      | error why =>
        obtain ⟨r, rfl, -⟩ := Record.header_error hheader
        rw [hheader] at h
        cases h
  have hdata : (fetchData address).BreaksOnly fun why => ¬ Unsigned why := by
    refine Session.breaksOnly_bind Session.breaksOnly_call fun _ =>
      Session.breaksOnly_bind Session.breaksOnly_get fun m => ?_
    dsimp only
    split
    · exact Session.breaksOnly_fail nofun
    · split
      · exact Session.breaksOnly_fail nofun
      · exact Session.breaksOnly_orFail (hpayload _)
  exact Session.breaksOnly_bind hdata fun data => Session.breaksOnly_orFail (hdecode data)

theorem not_unsigned_noAddress : ¬ Unsigned .noAddress := by
  rintro ⟨reason, hreason⟩
  cases hreason

theorem not_unsigned_of_createBundle {program payer sourceOwner source destination mint
    vesting : Key} {tranches : List Tranche} {seeds : Seeds} {why : Fault}
    (h : Instruction.createBundle program payer sourceOwner source destination mint tranches seeds
      vesting = .error why) : ¬ Unsigned why := by
  rw [Instruction.createBundle] at h
  rcases bind_eq_error_iff.1 h with hescrow | ⟨escrow, -, h⟩
  · rw [Address.error_of_associated hescrow]
    exact not_unsigned_noAddress
  rcases bind_eq_error_iff.1 h with hcount | ⟨count, -, h⟩
  · rw [Word32.ofInt] at hcount
    split at hcount
    · cases hcount
    · cases hcount
      rintro ⟨reason, hreason⟩
      cases hreason
  rcases bind_eq_error_iff.1 h with hopening | ⟨opening, -, h⟩
  · rw [Instruction.error_of_openAssociated hopening]
    exact not_unsigned_noAddress
  · cases h

theorem breaksOnly_instructions (program payer : Key) (job : Job) :
    (job.instructions program payer).BreaksOnly fun why => ¬ Unsigned why := by
  cases job with
  | init => exact Session.breaksOnly_pure
  | create =>
    rw [Job.instructions]
    exact Session.breaksOnly_orFail fun why => not_unsigned_of_createBundle
  | unlock seeds vesting =>
    rw [Job.instructions]
    refine Session.breaksOnly_bind (breaksOnly_fetch vesting) fun contract =>
      Session.breaksOnly_bind (Session.breaksOnly_orFail fun why hwhy => ?_) fun escrow =>
        Session.breaksOnly_pure
    rw [Address.error_of_associated hwhy]
    exact not_unsigned_noAddress
  | changeDestination owner target seeds vesting =>
    exact Session.breaksOnly_bind (breaksOnly_fetch vesting) fun contract => Session.breaksOnly_pure

/-- Whatever is asked of the cluster before, nothing is signed, and the signer stays. -/
theorem keeps_instructions (program payer : Key) (job : Job) :
    (job.instructions program payer).Keeps fun m => (m.signer, m.signings) := by
  have hcall (c : Call) : (Session.call c).Keeps fun m => (m.signer, m.signings) := fun _ => rfl
  have hfetch (address : Key) : (fetch address).Keeps fun m => (m.signer, m.signings) := by
    refine Session.keeps_bind (Session.keeps_bind (hcall _) fun _ =>
      Session.keeps_bind Session.keeps_get fun m => ?_) fun _ => Session.keeps_orFail
    dsimp only
    split
    · exact Session.keeps_fail
    · split
      · exact Session.keeps_fail
      · exact Session.keeps_orFail
  cases job with
  | init => exact Session.keeps_pure
  | create =>
    rw [Job.instructions]
    exact Session.keeps_orFail
  | unlock seeds vesting =>
    rw [Job.instructions]
    exact Session.keeps_bind (hfetch vesting) fun _ =>
      Session.keeps_bind Session.keeps_orFail fun _ => Session.keeps_pure
  | changeDestination owner target seeds vesting =>
    exact Session.keeps_bind (hfetch vesting) fun _ => Session.keeps_pure

/-- The keypairs of a signing are those that its message asks for. -/
structure Exact (s : Signing) (payer : Key) (ixs : List Instruction) : Prop where
  /-- No key signs twice. -/
  nodup : (s.pairs.map Keypair.key).Nodup
  /-- Those sign who pay or whom an instruction names as a signer. -/
  signs_iff : ∀ key, key ∈ s.pairs.map Keypair.key ↔ key = payer ∨ ∃ ix ∈ ixs, key ∈ ix.signers
  /-- They are those who have to sign the message. -/
  required_iff : ∀ key, key ∈ s.pairs.map Keypair.key ↔ key ∈ s.message.required

/-- **The keypairs that sign are those that have to, no more and no less.**  A job signs once if
its instructions can be made and the cluster takes transactions, and not at all otherwise.  The
keypairs are those of the payer and the partner; with these, a signer that does what it promises
does not fail, and what has been signed is sent. -/
theorem signers_exact (program : Key) (payer : Keypair) (job : Job) {m : Machine}
    (hsigner : m.signer.Documented) :
    let out := (job.run program payer).run.run m
    (∀ ixs m₁, (job.instructions program payer.key).Gives m ixs m₁ → m₁.cluster.closed = none →
      ∃ pairs signature,
        let signing : Signing := ⟨m.signer.compile payer.key ixs, pairs⟩
        Exact signing payer.key ixs ∧ pairs.Sublist (payer :: job.partners) ∧
        m.signer.sign signing.message pairs = .ok () ∧
        out.1 = .ok signature ∧ out.2.signings = signing :: m.signings ∧
        out.2.calls = .confirm signature :: .send signing.message :: m₁.calls) ∧
    ((∀ ixs m₁, (job.instructions program payer.key).Gives m ixs m₁ → m₁.cluster.closed ≠ none) →
      out.2.signings = m.signings) ∧
    ∀ why, out.1 = .error why → ¬ Unsigned why := by
  intro out
  have hkept := keeps_instructions program payer.key job m
  have hout : out = (job.instructions program payer.key >>= send payer job.partners).run.run m := by
    rw [← job.run_eq]
  rw [Session.run_bind] at hout
  cases hrun : (job.instructions program payer.key).run.run m with
  | mk result m₁ =>
    rw [hrun] at hout hkept
    obtain ⟨hsame, hsignings⟩ := Prod.mk.inj hkept
    cases result with
    | error why =>
      rw [hout]
      refine ⟨fun ixs m₂ hgives => ?_, fun _ => hsignings, ?_⟩
      · cases hrun.symm.trans hgives
      · rintro _ ⟨⟩
        exact breaksOnly_instructions program payer.key job m why m₁ hrun
    | ok ixs =>
      have hixs := job.signers_instructions m ixs m₁ hrun
      dsimp only at hout
      rw [run_send, hsame] at hout
      have hexact : Exact ⟨m.signer.compile payer.key ixs, signers payer job.partners⟩ payer.key
          ixs := by
        have hsigns (key : Key) : key ∈ (signers payer job.partners).map Keypair.key ↔
            key = payer.key ∨ ∃ ix ∈ ixs, key ∈ ix.signers := by
          rw [mem_signers_iff, hixs]
        exact ⟨nodup_signers payer job, hsigns, fun key =>
          (hsigns key).trans (hsigner.required_iff _ _ key).symm⟩
      cases hclosed : m₁.cluster.closed with
      | some why =>
        rw [hclosed] at hout
        rw [hout]
        refine ⟨fun ixs' m₂ hgives hopen => ?_, fun _ => hsignings, ?_⟩
        · cases hrun.symm.trans hgives
          cases hclosed.symm.trans hopen
        · rintro _ ⟨⟩ ⟨reason, hreason⟩
          cases hreason
      | none =>
        have hsigned := hsigner.sign_eq_ok hexact.required_iff
        rw [hclosed] at hout
        dsimp only at hout hsigned
        rw [hsigned, hsignings] at hout
        rw [hout]
        refine ⟨fun ixs' m₂ hgives _ => ?_, fun hshut => ?_, ?_⟩
        · cases hrun.symm.trans hgives
          exact ⟨_, _, hexact, List.Sublist.cons_cons payer List.filter_sublist, hsigned, rfl, rfl,
            rfl⟩
        · exact absurd hclosed (hshut ixs m₁ hrun)
        · rintro _ ⟨⟩

end Client

namespace Sample

/-- A cluster that has the contract. -/
def online : Machine where
  cluster := { accounts := [(vesting,
    .raw ((Header.mk destination mint true).pack ++ Tranche.packAll tranches))] }

def payingPair : Keypair := .ofSecret (List.replicate 32 20)

def owningPair : Keypair := .ofSecret (List.replicate 32 6)

/-- The owner of the destination hands it on to an account that has the payer's key. -/
def handOver : Client.Job := .changeDestination owningPair payingPair.key seeds vesting

/-- The text of a keypair file. -/
def keyFile (pair : Keypair) : List Char :=
  '[' :: [',', ' '].intercalate ((pair.secret ++ pair.key.bytes).map fun b =>
    Nat.toDigits 10 b.toNat) ++ [']']

end Sample

/-- Two keypairs as files hold them.  The payer signs once, although the new destination has the
same key, and the owner signs too. -/
theorem Client.signers_exact_handOver :
    (Keypair.read (Sample.keyFile Sample.payingPair)).toOption = some Sample.payingPair ∧
      (Keypair.read (Sample.keyFile Sample.owningPair)).toOption = some Sample.owningPair ∧
      Sample.online.signer.Documented ∧
      let out := (Sample.handOver.run Sample.program Sample.payingPair).run.run Sample.online
      ∃ message signature,
        Exact ⟨message, [Sample.payingPair, Sample.owningPair]⟩ Sample.payingPair.key
          [Instruction.changeDestination Sample.program Sample.vesting Sample.owningPair.key
            Sample.destination Sample.payingPair.key Sample.seeds] ∧
        out.1 = .ok signature ∧
        out.2.signings = [⟨message, [Sample.payingPair, Sample.owningPair]⟩] ∧
        out.2.calls = [.confirm signature, .send message, .accountInfo Sample.vesting] := by
  have hgives : (Sample.handOver.instructions Sample.program Sample.payingPair.key).Gives
      Sample.online
      [Instruction.changeDestination Sample.program Sample.vesting Sample.owningPair.key
        Sample.destination Sample.payingPair.key Sample.seeds]
      { Sample.online with calls := [.accountInfo Sample.vesting] } := by
    rfl
  have hpaying : (Keypair.read (Sample.keyFile Sample.payingPair)).toOption
      = some Sample.payingPair := by
    decide +kernel
  have howning : (Keypair.read (Sample.keyFile Sample.owningPair)).toOption
      = some Sample.owningPair := by
    decide +kernel
  have hne : Sample.owningPair.key ≠ Sample.payingPair.key := by decide +kernel
  obtain ⟨hsigned, -⟩ := signers_exact Sample.program Sample.payingPair Sample.handOver
    (m := Sample.online) Signer.documented
  obtain ⟨pairs, signature, hexact, hpairs, -, hresult, hsignings, hcalls⟩ :=
    hsigned _ _ hgives rfl
  -- both have to sign, so no keypair is left out
  obtain rfl : pairs = [Sample.payingPair, Sample.owningPair] := by
    refine hpairs.eq_of_length_le ?_
    have hboth : ([Sample.payingPair.key, Sample.owningPair.key]).Subperm
        (pairs.map Keypair.key) := by
      refine List.subperm_of_subset (List.nodup_cons.2 ⟨?_, List.pairwise_singleton _ _⟩) ?_
      · exact fun hmem => hne (List.mem_singleton.1 hmem).symm
      · have howner : Sample.owningPair.key ∈ pairs.map Keypair.key :=
          (hexact.signs_iff _).2 (.inr ⟨_, List.mem_singleton_self _, List.mem_singleton_self _⟩)
        exact List.cons_subset.2 ⟨(hexact.signs_iff _).2 (.inl rfl),
          List.cons_subset.2 ⟨howner, List.nil_subset _⟩⟩
    exact hboth.length_le.trans_eq (List.length_map _)
  exact ⟨hpaying, howning, Signer.documented, _, signature, hexact, hresult, hsignings, hcalls⟩

end Vesting
