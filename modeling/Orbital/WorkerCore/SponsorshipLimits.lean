import Orbital.Foundation.Intervals
import Orbital.WorkerCore.Paymaster

/-! # The limits of sponsorship over a run

The ceiling is checked against what was spent before a bump, not with its fee. The rate
limit keeps one bucket for each text of a source address.
-/

namespace Orbital.WorkerCore

open Foundation

namespace ResolvedPolicy

variable {policy : ResolvedPolicy}

def UnderCeiling (policy : ResolvedPolicy) (stroops : Nat) : Prop :=
  stroops * 2 ^ places ≤ policy.dailyXlmCeiling.units * stroopPerXlm

instance (stroops : Nat) : Decidable (policy.UnderCeiling stroops) :=
  inferInstanceAs (Decidable (_ ≤ _))

theorem UnderCeiling.of_le {more less : Nat} (under : policy.UnderCeiling more)
    (le : less ≤ more) : policy.UnderCeiling less :=
  (Nat.mul_le_mul_right _ le).trans under

theorem underCeiling_zero : policy.UnderCeiling 0 := by
  rw [UnderCeiling, Nat.zero_mul]
  exact Nat.zero_le _

end ResolvedPolicy

namespace SponsorshipPolicy

variable {policy : SponsorshipPolicy} {userId : JsString} {fee : Nat} {nowMs : Int}

/-! ## The day -/

theorem spentOn_record_today :
    (policy.record userId fee nowMs).spentOn (utcDateString nowMs) =
      policy.spentOn (utcDateString nowMs) + fee := by
  rw [record, recordDailySpend, spentOn, if_pos rfl]
  rfl

theorem spentOn_record_other {date : JsString} (other : utcDateString nowMs ≠ date) :
    (policy.record userId fee nowMs).spentOn date = 0 := by
  rw [record, recordDailySpend, spentOn, if_neg other]

theorem ceiling_record : (policy.record userId fee nowMs).policy = policy.policy :=
  rfl

/-! ## The buckets -/

def recentBumps (policy : SponsorshipPolicy) (userId : JsString) (nowMs : Int) : List Int :=
  policy.recent ((policy.buckets.get? userId).getD ⟨[]⟩) nowMs

theorem recent_eq_since (bucket : UserBucket) :
    policy.recent bucket nowMs =
      RollingWindow.since (nowMs - policy.policy.windowMs) bucket.timestamps :=
  rfl

theorem length_recentBumps_lt (limit : 0 < policy.policy.maxBumpsPerUserPerWindow)
    (checked : policy.checkRateLimit userId nowMs = .ok ()) :
    (policy.recentBumps userId nowMs).length < policy.policy.maxBumpsPerUserPerWindow := by
  rw [checkRateLimit] at checked
  rw [recentBumps]
  cases found : policy.buckets.get? userId with
  | none => exact limit
  | some bucket =>
      rw [found] at checked
      dsimp only at checked
      split at checked
      · cases checked
      · rename_i few
        exact not_le.mp few

theorem checkRateLimit_of_check {requestedBaseFee : Int}
    (checked : policy.check userId requestedBaseFee nowMs = .ok ()) :
    policy.checkRateLimit userId nowMs = .ok () := by
  rcases bind_eq_ok.mp checked with ⟨_, passed, -⟩
  exact passed

structure Remembers (policy : SponsorshipPolicy) (signed : List (Int × JsString)) (last : Int) :
    Prop where
  recent : ∀ userId nowMs, last ≤ nowMs → policy.recentBumps userId nowMs =
    RollingWindow.since (nowMs - policy.policy.windowMs)
      ((signed.filter fun bump => bump.2 = userId).map Prod.fst)
  latest : ∀ bump ∈ signed, bump.1 ≤ last

theorem remembers_new (config : SponsorshipPolicyConfig) (last : Int) :
    (new config).Remembers [] last where
  recent _ _ _ := rfl
  latest _ member := absurd member List.not_mem_nil

theorem recentBumps_record (other : JsString) (later : Int) :
    (policy.record userId fee nowMs).recentBumps other later =
      if other = userId then
        RollingWindow.since (later - policy.policy.windowMs)
          (policy.recentBumps userId nowMs ++ [nowMs])
      else policy.recentBumps other later := by
  rw [recentBumps, record, recordDailySpend, recordRateLimit, recent_eq_since,
    InsertionMap.get?_set]
  by_cases same : other = userId
  · rw [if_pos same, if_pos same]
    rfl
  · rw [if_neg same, if_neg same]
    rfl

theorem Remembers.record {signed : List (Int × JsString)} {last : Int}
    (remembers : policy.Remembers signed last) (later : last ≤ nowMs) :
    (policy.record userId fee nowMs).Remembers (signed ++ [(nowMs, userId)]) nowMs where
  recent := by
    intro other time afterNow
    rw [recentBumps_record, ceiling_record, List.filter_append, List.map_append]
    by_cases same : other = userId
    · subst same
      have one : [(nowMs, other)].filter (fun bump => bump.2 = other) = [(nowMs, other)] := by
        rw [List.filter_singleton, decide_eq_true rfl]
        rfl
      rw [if_pos rfl, one, remembers.recent other nowMs later, RollingWindow.since_append,
        RollingWindow.since_append, RollingWindow.since_since (by omega)]
      rfl
    · have none : [(nowMs, userId)].filter (fun bump => bump.2 = other) = [] := by
        rw [List.filter_singleton, decide_eq_false (Ne.symm same)]
        rfl
      rw [if_neg same, none, List.map_nil, List.append_nil,
        remembers.recent other time (later.trans afterNow)]
  latest := by
    intro bump member
    rcases List.mem_append.mp member with before | new
    · exact (remembers.latest bump before).trans later
    · cases List.mem_singleton.mp new
      exact le_refl _

end SponsorshipPolicy

namespace Paymaster

variable {Keypair : Type} {sdk : StellarSdk Keypair} {paymaster : Paymaster Keypair}
  {request : BumpRequest}

variable {innerTx : Transaction} {feeBump : FeeBump}

theorem Grants.unique {innerTx' : Transaction} {feeBump' : FeeBump}
    (grants : paymaster.Grants sdk request innerTx feeBump)
    (grantsToo : paymaster.Grants sdk request innerTx' feeBump') :
    innerTx = innerTx' ∧ feeBump = feeBump' := by
  have sameInner : innerTx = innerTx' :=
    Except.ok.inj (grants.parsed.symm.trans grantsToo.parsed)
  subst sameInner
  exact ⟨rfl, Except.ok.inj (grants.built.symm.trans grantsToo.built)⟩

theorem signed_of_grants (grants : paymaster.Grants sdk request innerTx feeBump)
    (rest : List BumpRequest) :
    paymaster.signed sdk (request :: rest) =
      ⟨request.nowMs, ⟨feeBump.envelopeXdr, feeBump.fee, innerTx.source⟩⟩ ::
        ((machine sdk).step paymaster request).2.signed sdk rest := by
  simp only [signed, machine, grants.bump_eq]

variable {error : BumpError} {date : JsString} {requests : List BumpRequest}

theorem signed_of_refused (called : paymaster.bump sdk request = .error error)
    (rest : List BumpRequest) :
    paymaster.signed sdk (request :: rest) = paymaster.signed sdk rest := by
  simp only [signed, called]

theorem step_of_grants (grants : paymaster.Grants sdk request innerTx feeBump) :
    ((machine sdk).step paymaster request).2 = { paymaster with
      policy := paymaster.policy.record innerTx.source feeBump.fee request.nowMs } := by
  simp only [machine, grants.bump_eq]

theorem step_of_refused (called : paymaster.bump sdk request = .error error) :
    ((machine sdk).step paymaster request).2 = paymaster := by
  simp only [machine, called]

theorem grants_or_refused (sdk : StellarSdk Keypair) (paymaster : Paymaster Keypair)
    (request : BumpRequest) :
    (∃ innerTx feeBump, paymaster.Grants sdk request innerTx feeBump) ∨
      ∃ error, paymaster.bump sdk request = .error error ∧
        ∀ innerTx feeBump, ¬ paymaster.Grants sdk request innerTx feeBump := by
  cases called : paymaster.bump sdk request with
  | error error =>
      refine .inr ⟨error, rfl, ?_⟩
      intro innerTx feeBump grants
      rw [grants.bump_eq] at called
      cases called
  | ok returned =>
      rcases bump_eq_ok called with ⟨innerTx, feeBump, grants, -, -⟩
      exact .inl ⟨innerTx, feeBump, grants⟩

/-! ## Requests of an account with two addresses -/

namespace Example

def operator : JsString :=
  js "GCFIRY65OQE7DFP5KLNS2PF2LVZMUZYJX4OZIEQ36N2IQANUB5XVYOJR"

def testnet : JsString :=
  js "Test SDF Network ; September 2015"

def firstXdr : JsString :=
  js "AAAAAgAAAQAAAAAAAAAAAYE5dw6ofRdfVqNUZsNMfszLjYqRtO43ol32D1uPybOUAAAAZAAAAAAAAAABAAAA" ++
    js "AAAAAAAAAAABAAAAAAAAAAsAAAAAAAAAAgAAAAAAAAABj8mzlAAAAEBfeLBLzKRpj9IjgSMFz/309g2LHdUD" ++
    js "/11jul2wTXMS4PnA9+DrwR2uM6H2vqvgw9ZXSSbsCK+C0PbJNPzJEbgC"

def secondXdr : JsString :=
  js "AAAAAgAAAQAAAAAAAAAAAoE5dw6ofRdfVqNUZsNMfszLjYqRtO43ol32D1uPybOUAAAAZAAAAAAAAAACAAAA" ++
    js "AAAAAAAAAAABAAAAAAAAAAsAAAAAAAAAAwAAAAAAAAABj8mzlAAAAEDkD77djjT6ye+gxRR5NP9A8v6hP/xH" ++
    js "rb5SPQ791jA0dAMZ9DoUgUCKV2rW6HTMVdpz6XjXXNc3UGckRfsYVIcO"

def firstInner : Transaction where
  source := js "MCATS5YOVB6ROX2WUNKGNQ2MP3GMXDMKSG2O4N5CLX3A6W4PZGZZIAAAAAAAAAAAAHZ7W"
  operations := 1
  signatures := 1
  envelopeXdr := firstXdr

def secondInner : Transaction where
  source := js "MCATS5YOVB6ROX2WUNKGNQ2MP3GMXDMKSG2O4N5CLX3A6W4PZGZZIAAAAAAAAAAAAKIMW"
  operations := 1
  signatures := 1
  envelopeXdr := secondXdr

def account (address : JsString) : JsString :=
  if address = firstInner.source ∨ address = secondInner.source then
    js "GCATS5YOVB6ROX2WUNKGNQ2MP3GMXDMKSG2O4N5CLX3A6W4PZGZZI55U"
  else address

def firstBump : FeeBump where
  fee := 400
  envelopeXdr :=
    js "AAAABQAAAACKiOPddAnxlf1S2y08ul1yymcJvx2UEhvzdIgBtA9vXAAAAAAAAAGQAAAAAgAAAQAAAAAAAAAA" ++
      js "AYE5dw6ofRdfVqNUZsNMfszLjYqRtO43ol32D1uPybOUAAAAZAAAAAAAAAABAAAAAAAAAAAAAAABAAAAAAAA" ++
      js "AAsAAAAAAAAAAgAAAAAAAAABj8mzlAAAAEBfeLBLzKRpj9IjgSMFz/309g2LHdUD/11jul2wTXMS4PnA9+Dr" ++
      js "wR2uM6H2vqvgw9ZXSSbsCK+C0PbJNPzJEbgCAAAAAAAAAAG0D29cAAAAQEASFw6J3e9ldcxPzWSzgrrcdc4e" ++
      js "awSOkxb4AptqhAunTxHUZ9LGyg5ZBckM3Gz6g3qFt1Y2U10VobNpE3RlCgY="

def secondBump : FeeBump where
  fee := 400
  envelopeXdr :=
    js "AAAABQAAAACKiOPddAnxlf1S2y08ul1yymcJvx2UEhvzdIgBtA9vXAAAAAAAAAGQAAAAAgAAAQAAAAAAAAAA" ++
      js "AoE5dw6ofRdfVqNUZsNMfszLjYqRtO43ol32D1uPybOUAAAAZAAAAAAAAAACAAAAAAAAAAAAAAABAAAAAAAA" ++
      js "AAsAAAAAAAAAAwAAAAAAAAABj8mzlAAAAEDkD77djjT6ye+gxRR5NP9A8v6hP/xHrb5SPQ791jA0dAMZ9DoU" ++
      js "gUCKV2rW6HTMVdpz6XjXXNc3UGckRfsYVIcOAAAAAAAAAAG0D29cAAAAQKsuLhBIaHLiQNHv8zvkOYVkukNM" ++
      js "rgQm5dp8Gyb9IBM0a+dvQi3konaN2w2YQYakHe6i7PZByJayPLxEQPDyhAI="

def dearBump : FeeBump where
  fee := 20000000
  envelopeXdr :=
    js "AAAABQAAAACKiOPddAnxlf1S2y08ul1yymcJvx2UEhvzdIgBtA9vXAAAAAABMS0AAAAAAgAAAQAAAAAAAAAA" ++
      js "AYE5dw6ofRdfVqNUZsNMfszLjYqRtO43ol32D1uPybOUAAAAZAAAAAAAAAABAAAAAAAAAAAAAAABAAAAAAAA" ++
      js "AAsAAAAAAAAAAgAAAAAAAAABj8mzlAAAAEBfeLBLzKRpj9IjgSMFz/309g2LHdUD/11jul2wTXMS4PnA9+Dr" ++
      js "wR2uM6H2vqvgw9ZXSSbsCK+C0PbJNPzJEbgCAAAAAAAAAAG0D29cAAAAQChehNkPs8iJz7BTgHrVs6e7jRXo" ++
      js "FbJVcDEeqBTYYjN38Y3NhOdkjDtNlijerUj7oYQ/q3bEU2sKtx5//JtJsQk="

def stellarSdk : StellarSdk JsString where
  publicKey address := address
  fromXDR xdr network :=
    if network = testnet ∧ xdr = firstXdr then .ok (.transaction firstInner)
    else if network = testnet ∧ xdr = secondXdr then .ok (.transaction secondInner)
    else .error (js "XDR Read Error")
  buildFeeBumpTransaction keypair baseFee inner network :=
    if keypair = operator ∧ network = testnet then
      if baseFee = js "200" ∧ inner = firstInner then .ok firstBump
      else if baseFee = js "200" ∧ inner = secondInner then .ok secondBump
      else if baseFee = js "10000000" ∧ inner = firstInner then .ok dearBump
      else .error (js "Invalid baseFee")
    else .error (js "Invalid baseFee")

def oneXlm : Magnitude where
  significand := 4503599627370496
  exponent := 1022
  significand_lt := by decide
  exponent_le := Nat.le_add_right 1022 1023
  normal := .inr (by decide)

def config : SponsorshipPolicyConfig where
  maxBumpsPerUserPerWindow := some 1
  windowMs := none
  maxFeePerBump := some 10000000
  dailyXlmCeiling := some oneXlm

def twoAddresses : List BumpRequest :=
  [⟨firstXdr, 200, 1728000000000⟩, ⟨secondXdr, 200, 1728000001000⟩]

def threeRequests : List BumpRequest :=
  [⟨firstXdr, 200, 1728000000000⟩, ⟨firstXdr, 200, 1728000001000⟩,
    ⟨secondXdr, 200, 1728000061000⟩]

def bumpedAt (nowMs : Int) : SponsorshipPolicy :=
  (SponsorshipPolicy.new config).record firstInner.source firstBump.fee nowMs

theorem firstSource_ne_operator : firstInner.source ≠ operator := by
  have source : firstInner.source = units _ := js_ofList _
  have key : operator = units _ := js_ofList _
  rw [source, key]
  decide

theorem secondSource_ne_operator : secondInner.source ≠ operator := by
  have source : secondInner.source = units _ := js_ofList _
  have key : operator = units _ := js_ofList _
  rw [source, key]
  decide

theorem secondXdr_ne_firstXdr : secondXdr ≠ firstXdr := by
  rw [secondXdr, firstXdr]
  repeat rw [js_ofList]
  decide

theorem account_second : account secondInner.source = account firstInner.source :=
  (if_pos (.inr rfl)).trans (if_pos (.inl rfl)).symm

theorem secondInner_ne_firstInner : secondInner ≠ firstInner :=
  fun same => secondXdr_ne_firstXdr (congrArg Transaction.envelopeXdr same)

theorem parse_first (policy : SponsorshipPolicy) :
    parseInner stellarSdk ⟨operator, testnet, policy⟩ firstXdr = .ok firstInner := by
  have read : stellarSdk.fromXDR firstXdr (mk operator testnet policy).network =
      .ok (.transaction firstInner) := by
    simp only [stellarSdk, and_self, if_true]
  rw [parseInner, read]
  rfl

theorem parse_second (policy : SponsorshipPolicy) :
    parseInner stellarSdk ⟨operator, testnet, policy⟩ secondXdr = .ok secondInner := by
  have read : stellarSdk.fromXDR secondXdr (mk operator testnet policy).network =
      .ok (.transaction secondInner) := by
    simp only [stellarSdk, secondXdr_ne_firstXdr, and_false, and_self, if_true, if_false]
  rw [parseInner, read]
  rfl

variable {policy : SponsorshipPolicy} {nowMs : Int}

theorem grants_first (checked : policy.check firstInner.source 200 nowMs = .ok ()) :
    Grants stellarSdk ⟨operator, testnet, policy⟩ ⟨firstXdr, 200, nowMs⟩ firstInner firstBump where
  parsed := parse_first policy
  other := firstSource_ne_operator
  checked := checked
  built := by
    have text : bigintText 200 = js "200" := by decide
    simp only [stellarSdk, text, and_self, if_true]

theorem step_first (checked : policy.check firstInner.source 200 nowMs = .ok ()) :
    ((machine stellarSdk).step ⟨operator, testnet, policy⟩ ⟨firstXdr, 200, nowMs⟩).2 =
      ⟨operator, testnet, policy.record firstInner.source firstBump.fee nowMs⟩ :=
  step_of_grants (grants_first checked)

theorem step_new (nowMs : Int)
    (checked : (SponsorshipPolicy.new config).check firstInner.source 200 nowMs = .ok ()) :
    ((machine stellarSdk).step (new operator testnet config) ⟨firstXdr, 200, nowMs⟩).2 =
      ⟨operator, testnet, bumpedAt nowMs⟩ := by
  rw [new, step_first checked, bumpedAt]

theorem grants_second (checked : policy.check secondInner.source 200 nowMs = .ok ()) :
    Grants stellarSdk ⟨operator, testnet, policy⟩ ⟨secondXdr, 200, nowMs⟩ secondInner
      secondBump where
  parsed := parse_second policy
  other := secondSource_ne_operator
  checked := checked
  built := by
    have text : bigintText 200 = js "200" := by decide
    simp only [stellarSdk, text, secondInner_ne_firstInner, and_false, and_self, if_true, if_false]

theorem grants_dear (checked : policy.check firstInner.source 10000000 nowMs = .ok ()) :
    Grants stellarSdk ⟨operator, testnet, policy⟩ ⟨firstXdr, 10000000, nowMs⟩ firstInner
      dearBump where
  parsed := parse_first policy
  other := firstSource_ne_operator
  checked := checked
  built := by
    have text : bigintText 10000000 = js "10000000" := by decide
    have differs : js "10000000" ≠ js "200" := by decide
    simp only [stellarSdk, text, differs, false_and, and_self, if_true, if_false]

end Example

/-! ## The ceiling of a day -/

def totalStroops (bumps : List SignedBump) : Nat :=
  (bumps.map fun bump => bump.result.totalFeeStroops).sum

def FeeFits (sdk : StellarSdk Keypair) (paymaster : Paymaster Keypair) (request : BumpRequest) :
    Prop :=
  ∀ innerTx feeBump, paymaster.Grants sdk request innerTx feeBump →
    paymaster.policy.policy.UnderCeiling
      (paymaster.policy.spentOn (utcDateString request.nowMs) + feeBump.fee)

theorem feeFits_iff (grants : paymaster.Grants sdk request innerTx feeBump) :
    FeeFits sdk paymaster request ↔ paymaster.policy.policy.UnderCeiling
      (paymaster.policy.spentOn (utcDateString request.nowMs) + feeBump.fee) := by
  constructor
  · exact fun fits => fits innerTx feeBump grants
  · intro under innerTx' feeBump' grantsToo
    rw [← (grants.unique grantsToo).2]
    exact under

theorem underCeiling_iff (today : ∀ request ∈ requests, utcDateString request.nowMs = date) :
    paymaster.policy.policy.UnderCeiling
        (paymaster.policy.spentOn date + totalStroops (paymaster.signed sdk requests)) ↔
      paymaster.policy.policy.UnderCeiling (paymaster.policy.spentOn date) ∧
        (machine sdk).Meets (FeeFits sdk) paymaster requests := by
  induction requests generalizing paymaster with
  | nil => exact (and_iff_left trivial).symm
  | cons request rest induction =>
      have isToday : utcDateString request.nowMs = date := today request List.mem_cons_self
      have others : ∀ request ∈ rest, utcDateString request.nowMs = date :=
        fun request member => today request (List.mem_cons_of_mem _ member)
      rcases grants_or_refused sdk paymaster request with
        ⟨innerTx, feeBump, grants⟩ | ⟨error, called, none⟩
      · have spent : ((machine sdk).step paymaster request).2.policy.spentOn date =
            paymaster.policy.spentOn date + feeBump.fee := by
          rw [step_of_grants grants, ← isToday]
          exact SponsorshipPolicy.spentOn_record_today
        have same (stroops : Nat) :
            ((machine sdk).step paymaster request).2.policy.policy.UnderCeiling stroops ↔
              paymaster.policy.policy.UnderCeiling stroops := by
          rw [step_of_grants grants]
          rfl
        have later := @induction ((machine sdk).step paymaster request).2 others
        rw [same, same, spent] at later
        have sum : paymaster.policy.spentOn date +
              totalStroops (paymaster.signed sdk (request :: rest)) =
            paymaster.policy.spentOn date + feeBump.fee +
              totalStroops (((machine sdk).step paymaster request).2.signed sdk rest) := by
          rw [signed_of_grants grants, totalStroops, List.map_cons, List.sum_cons, Nat.add_assoc]
          rfl
        rw [sum, later, Machine.Meets, feeFits_iff grants, isToday]
        constructor
        · rintro ⟨fits, meets⟩
          exact ⟨fits.of_le (Nat.le_add_right _ _), fits, meets⟩
        · rintro ⟨-, fits, meets⟩
          exact ⟨fits, meets⟩
      · have vacuous : FeeFits sdk paymaster request :=
          fun innerTx feeBump grants => absurd grants (none innerTx feeBump)
        rw [signed_of_refused called, Machine.Meets, step_of_refused called, induction others,
          and_iff_right vacuous]

theorem policy_after (requests : List BumpRequest) :
    ((machine sdk).after paymaster requests).policy.policy = paymaster.policy.policy := by
  induction requests generalizing paymaster with
  | nil => rfl
  | cons request rest induction =>
      rw [Machine.after, induction]
      rcases grants_or_refused sdk paymaster request with
        ⟨innerTx, feeBump, grants⟩ | ⟨error, called, -⟩
      · rw [step_of_grants grants]
        rfl
      · rw [step_of_refused called]

theorem spentOn_after (earlier : ∀ request ∈ requests, utcDateString request.nowMs ≠ date)
    (unspent : paymaster.policy.spentOn date = 0) :
    ((machine sdk).after paymaster requests).policy.spentOn date = 0 := by
  induction requests generalizing paymaster with
  | nil => exact unspent
  | cons request rest induction =>
      apply induction (fun request member => earlier request (List.mem_cons_of_mem _ member))
      rcases grants_or_refused sdk paymaster request with
        ⟨innerTx, feeBump, grants⟩ | ⟨error, called, -⟩
      · rw [step_of_grants grants]
        exact SponsorshipPolicy.spentOn_record_other (earlier request List.mem_cons_self)
      · rw [step_of_refused called]
        exact unspent

theorem spentOn_new (keypair : Keypair) (network : JsString) (config : SponsorshipPolicyConfig)
    (date : JsString) : (new keypair network config).policy.spentOn date = 0 := by
  show (if _ then 0 else 0) = 0
  rw [ite_self]

/-- After requests on other days, the total of a day is at most the ceiling exactly if the fee
of each granted request fits what the ceiling leaves. -/
theorem day_total_le_ceiling_iff (sdk : StellarSdk Keypair) (keypair : Keypair)
    (network : JsString) (config : SponsorshipPolicyConfig) (date : JsString)
    (earlier requests : List BumpRequest)
    (before : ∀ request ∈ earlier, utcDateString request.nowMs ≠ date)
    (today : ∀ request ∈ requests, utcDateString request.nowMs = date) :
    let paymaster := (machine sdk).after (new keypair network config) earlier
    (resolvePolicy config).UnderCeiling (totalStroops (paymaster.signed sdk requests)) ↔
      (machine sdk).Meets (FeeFits sdk) paymaster requests := by
  intro paymaster
  have resolved : paymaster.policy.policy = resolvePolicy config := policy_after earlier
  have unspent : paymaster.policy.spentOn date = 0 :=
    spentOn_after before (spentOn_new keypair network config date)
  have iff := @underCeiling_iff Keypair sdk paymaster date requests today
  rw [resolved, unspent, Nat.zero_add, and_iff_right ResolvedPolicy.underCeiling_zero] at iff
  exact iff

/-- A bump of 2 XLM is signed on a day with a ceiling of 1 XLM. -/
theorem dear_bump_signed :
    ¬ (resolvePolicy Example.config).UnderCeiling (totalStroops
      ((new Example.operator Example.testnet Example.config).signed Example.stellarSdk
        [⟨Example.firstXdr, 10000000, 1728000000000⟩])) := by
  have checked : (SponsorshipPolicy.new Example.config).check Example.firstInner.source 10000000
      1728000000000 = .ok () := by
    have source : Example.firstInner.source = units _ := js_ofList _
    rw [source]
    decide +kernel
  have signs : (new Example.operator Example.testnet Example.config).signed Example.stellarSdk
      [⟨Example.firstXdr, 10000000, 1728000000000⟩] = [⟨1728000000000, ⟨_, 20000000, _⟩⟩] :=
    signed_of_grants (Example.grants_dear checked) []
  rw [signs, totalStroops, List.map_singleton, List.sum_singleton]
  decide +kernel

/-- A bump late on the day before, and two on a day whose ceiling they are under. -/
theorem bumps_under_ceiling :
    (resolvePolicy Example.config).UnderCeiling (totalStroops
      (((machine Example.stellarSdk).after (new Example.operator Example.testnet Example.config)
        [⟨Example.firstXdr, 200, 1727999990000⟩]).signed Example.stellarSdk
          [⟨Example.firstXdr, 200, 1728000060000⟩, ⟨Example.secondXdr, 200, 1728000061000⟩])) := by
  apply (day_total_le_ceiling_iff Example.stellarSdk Example.operator Example.testnet
    Example.config (js "2024-10-04") [⟨Example.firstXdr, 200, 1727999990000⟩]
    [⟨Example.firstXdr, 200, 1728000060000⟩, ⟨Example.secondXdr, 200, 1728000061000⟩]
    (by decide +kernel) (by decide +kernel)).mpr
  have source : Example.firstInner.source = units _ := js_ofList _
  have other : Example.secondInner.source = units _ := js_ofList _
  have yesterday : (SponsorshipPolicy.new Example.config).check Example.firstInner.source 200
      1727999990000 = .ok () := by
    rw [source]
    decide +kernel
  have first : (Example.bumpedAt 1727999990000).check Example.firstInner.source 200
      1728000060000 = .ok () := by
    rw [Example.bumpedAt, source]
    decide +kernel
  have second : ((Example.bumpedAt 1727999990000).record Example.firstInner.source
      Example.firstBump.fee 1728000060000).check Example.secondInner.source 200 1728000061000 =
        .ok () := by
    rw [Example.bumpedAt, source, other]
    decide +kernel
  rw [Machine.after, Machine.after, Example.step_new 1727999990000 yesterday]
  refine ⟨(feeFits_iff (Example.grants_first first)).mpr (by decide +kernel), ?_⟩
  rw [Example.step_first first]
  exact ⟨(feeFits_iff (Example.grants_second second)).mpr (by decide +kernel), trivial⟩

/-! ## The bumps of an account -/

def OneAddress {Account : Type} (sdk : StellarSdk Keypair) (account : JsString → Account)
    (paymaster : Paymaster Keypair) (request : BumpRequest) : Prop :=
  ∀ innerTx, paymaster.parseInner sdk request.innerXdr = .ok innerTx →
    ∀ other ∈ paymaster.policy.buckets.keys, other ≠ innerTx.source →
      account other = account innerTx.source →
        paymaster.policy.recentBumps other request.nowMs = []

def SignedBump.entry (bump : SignedBump) : Int × JsString :=
  (bump.nowMs, bump.result.innerSource)

section Accounts

variable {Account : Type} [DecidableEq Account] {account : JsString → Account}

def timesOf (account : JsString → Account) (source : Account) (bumps : List (Int × JsString)) :
    List Int :=
  (bumps.filter fun bump => account bump.2 = source).map Prod.fst

theorem timesOf_append (source : Account) (front back : List (Int × JsString)) :
    timesOf account source (front ++ back) =
      timesOf account source front ++ timesOf account source back := by
  rw [timesOf, List.filter_append, List.map_append]
  rfl

variable {bumps : List (Int × JsString)} {last : Int}

theorem since_timesOf {innerTx : Transaction} (remembers : paymaster.policy.Remembers bumps last)
    (later : last ≤ request.nowMs)
    (parsed : paymaster.parseInner sdk request.innerXdr = .ok innerTx)
    (oneAddress : OneAddress sdk account paymaster request) :
    RollingWindow.since (request.nowMs - paymaster.policy.policy.windowMs)
        (timesOf account (account innerTx.source) bumps) =
      paymaster.policy.recentBumps innerTx.source request.nowMs := by
  rw [remembers.recent innerTx.source request.nowMs later]
  apply RollingWindow.since_map_congr
  intro bump member recent
  apply decide_eq_decide.mpr
  constructor
  · intro sameAccount
    by_contra differs
    -- A recent bump of another address would be in that address's bucket.
    have inBucket : bump.1 ∈ paymaster.policy.recentBumps bump.2 request.nowMs := by
      rw [remembers.recent bump.2 request.nowMs later]
      apply List.mem_filter.mpr
      refine ⟨List.mem_map_of_mem (List.mem_filter.mpr ⟨member, decide_eq_true rfl⟩), ?_⟩
      exact decide_eq_true recent
    cases found : paymaster.policy.buckets.get? bump.2 with
    | none =>
        rw [SponsorshipPolicy.recentBumps, found] at inBucket
        cases inBucket
    | some bucket =>
        rw [oneAddress innerTx parsed bump.2 (InsertionMap.mem_keys_iff.mpr ⟨bucket, found⟩)
          differs sameAccount] at inBucket
        cases inBucket
  · intro same
    rw [same]

theorem admitted_signed {requests : List BumpRequest}
    (limit : 0 < paymaster.policy.policy.maxBumpsPerUserPerWindow)
    (remembers : paymaster.policy.Remembers bumps last)
    (later : ∀ request ∈ requests, last ≤ request.nowMs)
    (ordered : requests.Pairwise fun first second => first.nowMs ≤ second.nowMs)
    (meets : (machine sdk).Meets (OneAddress sdk account) paymaster requests) (source : Account)
    (admitted : RollingWindow.Admitted paymaster.policy.policy.windowMs
      paymaster.policy.policy.maxBumpsPerUserPerWindow (timesOf account source bumps)) :
    RollingWindow.Admitted paymaster.policy.policy.windowMs
      paymaster.policy.policy.maxBumpsPerUserPerWindow (timesOf account source
        (bumps ++ (paymaster.signed sdk requests).map SignedBump.entry)) := by
  induction requests generalizing paymaster bumps last with
  | nil =>
      rw [signed, List.map_nil, List.append_nil]
      exact admitted
  | cons request rest induction =>
      rcases List.pairwise_cons.mp ordered with ⟨first, ordered⟩
      have now : last ≤ request.nowMs := later request List.mem_cons_self
      rcases meets with ⟨oneAddress, meets⟩
      rcases grants_or_refused sdk paymaster request with
        ⟨innerTx, feeBump, grants⟩ | ⟨error, called, -⟩
      · rw [signed_of_grants grants, List.map_cons, List.append_cons]
        rw [step_of_grants grants] at meets ⊢
        refine @induction { paymaster with
          policy := paymaster.policy.record innerTx.source feeBump.fee request.nowMs }
          _ _ limit (remembers.record now) first ordered meets ?_
        rw [timesOf_append]
        show RollingWindow.Admitted paymaster.policy.policy.windowMs
          paymaster.policy.policy.maxBumpsPerUserPerWindow
          (timesOf account source bumps ++ timesOf account source [(request.nowMs, innerTx.source)])
        by_cases own : account innerTx.source = source
        · have one : timesOf account source [(request.nowMs, innerTx.source)] =
              [request.nowMs] := by
            rw [timesOf, List.filter_singleton, decide_eq_true own]
            rfl
          have few : (RollingWindow.since
              (request.nowMs - paymaster.policy.policy.windowMs)
              (timesOf account source bumps)).length <
                paymaster.policy.policy.maxBumpsPerUserPerWindow := by
            rw [← own, since_timesOf remembers now grants.parsed oneAddress]
            exact SponsorshipPolicy.length_recentBumps_lt limit
              (SponsorshipPolicy.checkRateLimit_of_check grants.checked)
          rw [one]
          refine .append_singleton admitted ?_ few
          intro time member
          rcases List.mem_map.mp member with ⟨bump, inside, rfl⟩
          exact (remembers.latest bump (List.mem_of_mem_filter inside)).trans now
        · have none : timesOf account source [(request.nowMs, innerTx.source)] = [] := by
            rw [timesOf, List.filter_singleton, decide_eq_false own]
            rfl
          rw [none, List.append_nil]
          exact admitted
      · rw [signed_of_refused called]
        rw [step_of_refused called] at meets
        exact induction limit remembers
          (fun request member => later request (List.mem_cons_of_mem _ member)) ordered meets
          admitted

def bumpsWithin (account : JsString → Account) (source : Account) (start windowMs : Int)
    (bumps : List SignedBump) : List SignedBump :=
  bumps.filter fun bump => account bump.result.innerSource = source ∧
    start < bump.nowMs ∧ bump.nowMs ≤ start + windowMs

theorem length_bumpsWithin (source : Account) (start windowMs : Int) (bumps : List SignedBump) :
    (bumpsWithin account source start windowMs bumps).length =
      (RollingWindow.within start windowMs
        (timesOf account source (bumps.map SignedBump.entry))).length := by
  rw [bumpsWithin, RollingWindow.within, timesOf, List.filter_map, List.filter_map,
    List.filter_map, List.length_map, List.length_map, List.filter_filter]
  congr 1
  apply List.filter_congr
  intro bump member
  rw [Bool.eq_iff_iff]
  simp only [decide_eq_true_eq, Function.comp_apply, Bool.and_eq_true, SignedBump.entry]
  constructor
  · intro both
    exact ⟨both.2, decide_eq_true both.1⟩
  · intro both
    exact ⟨of_decide_eq_true both.2, both.1⟩

/-- While every account uses one address and the limit is not zero, no window has more bumps of
an account than the limit. -/
theorem bumps_in_window_le (sdk : StellarSdk Keypair) (account : JsString → Account)
    (keypair : Keypair) (network : JsString) (config : SponsorshipPolicyConfig)
    (requests : List BumpRequest)
    (ordered : requests.Pairwise fun first second => first.nowMs ≤ second.nowMs)
    (limit : 0 < (resolvePolicy config).maxBumpsPerUserPerWindow)
    (oneAddress : (machine sdk).Meets (OneAddress sdk account) (new keypair network config)
      requests)
    (source : Account) (start : Int) :
    (bumpsWithin account source start (resolvePolicy config).windowMs
      ((new keypair network config).signed sdk requests)).length ≤
        (resolvePolicy config).maxBumpsPerUserPerWindow := by
  rw [length_bumpsWithin]
  apply RollingWindow.Admitted.length_within_le
  cases requests with
  | nil => exact .nil
  | cons request rest =>
      have first : ∀ other ∈ request :: rest, request.nowMs ≤ other.nowMs := by
        intro other member
        rcases List.mem_cons.mp member with rfl | later
        · exact le_refl _
        · exact (List.pairwise_cons.mp ordered).1 other later
      exact admitted_signed limit (SponsorshipPolicy.remembers_new config request.nowMs) first
        ordered oneAddress source .nil

end Accounts

/-- Two bumps of an account are signed within a second where one a minute is allowed. -/
theorem bumps_of_two_addresses :
    ¬ (bumpsWithin Example.account (Example.account Example.firstInner.source) 1727999999999
      (resolvePolicy Example.config).windowMs
      ((new Example.operator Example.testnet Example.config).signed Example.stellarSdk
        Example.twoAddresses)).length ≤
          (resolvePolicy Example.config).maxBumpsPerUserPerWindow := by
  have source : Example.firstInner.source = units _ := js_ofList _
  have other : Example.secondInner.source = units _ := js_ofList _
  have first : (SponsorshipPolicy.new Example.config).check Example.firstInner.source 200
      1728000000000 = .ok () := by
    rw [source]
    decide +kernel
  have second : ((SponsorshipPolicy.new Example.config).record Example.firstInner.source
      Example.firstBump.fee 1728000000000).check Example.secondInner.source 200 1728000001000 =
        .ok () := by
    rw [source, other]
    decide +kernel
  have grants : (new Example.operator Example.testnet Example.config).Grants Example.stellarSdk
      ⟨Example.firstXdr, 200, 1728000000000⟩ Example.firstInner Example.firstBump :=
    Example.grants_first first
  have signs : (new Example.operator Example.testnet Example.config).signed Example.stellarSdk
      Example.twoAddresses = [
        ⟨1728000000000, ⟨Example.firstBump.envelopeXdr, 400, Example.firstInner.source⟩⟩,
        ⟨1728000001000, ⟨Example.secondBump.envelopeXdr, 400, Example.secondInner.source⟩⟩] := by
    rw [Example.twoAddresses, signed_of_grants grants, step_of_grants grants]
    exact congrArg _ (signed_of_grants (Example.grants_second second) [])
  have here : (1727999999999 : Int) < 1728000000000 ∧
      (1728000000000 : Int) ≤ 1727999999999 + (resolvePolicy Example.config).windowMs := by
    decide
  have there : (1727999999999 : Int) < 1728000001000 ∧
      (1728000001000 : Int) ≤ 1727999999999 + (resolvePolicy Example.config).windowMs := by
    decide
  rw [signs, bumpsWithin, List.filter_cons_of_pos, List.filter_cons_of_pos]
  · decide
  · exact decide_eq_true ⟨Example.account_second, there⟩
  · exact decide_eq_true ⟨rfl, here⟩

/-- A bump, one too early behind it, and one of the account's other address when the first is
behind the window. -/
theorem bumps_of_one_address :
    (bumpsWithin Example.account (Example.account Example.firstInner.source) 1727999999999
      (resolvePolicy Example.config).windowMs
      ((new Example.operator Example.testnet Example.config).signed Example.stellarSdk
        Example.threeRequests)).length ≤
          (resolvePolicy Example.config).maxBumpsPerUserPerWindow := by
  apply bumps_in_window_le Example.stellarSdk Example.account Example.operator Example.testnet
    Example.config Example.threeRequests (by decide) (by decide)
  refine ⟨fun _ _ _ member => absurd member List.not_mem_nil, ?_⟩
  have source : Example.firstInner.source = units _ := js_ofList _
  have first : (SponsorshipPolicy.new Example.config).check Example.firstInner.source 200
      1728000000000 = .ok () := by
    rw [source]
    decide +kernel
  rw [Example.step_new 1728000000000 first]
  have own : ∀ other ∈ (Example.bumpedAt 1728000000000).buckets.keys,
      other = Example.firstInner.source :=
    fun other member => List.mem_singleton.mp member
  rcases grants_or_refused Example.stellarSdk
    ⟨Example.operator, Example.testnet, Example.bumpedAt 1728000000000⟩
    ⟨Example.firstXdr, 200, 1728000001000⟩ with ⟨innerTx, feeBump, grants⟩ | ⟨error, called, -⟩
  · cases (Example.parse_first _).symm.trans grants.parsed
    refine absurd grants.checked ?_
    rw [Example.bumpedAt, source]
    decide +kernel
  · refine ⟨?_, ?_⟩
    · intro innerTx parsed other member differs
      cases (Example.parse_first _).symm.trans parsed
      exact absurd (own other member) differs
    · rw [step_of_refused called]
      refine ⟨?_, trivial⟩
      intro innerTx parsed other member differs sameAccount
      rw [own other member, Example.bumpedAt, source]
      decide +kernel

end Paymaster

end Orbital.WorkerCore
