import Fvs318g.Lib.Bytes
import Fvs318g.Netfilter.Shnat

/-!
# Masquerading and earlier connections

`masquerade_target` writes the range that the hooks choose through the pointer to the rule.
A later call starts from what the earlier ones left: this module says for which calls that
makes no difference.
-/

namespace Fvs318g.Verif.Masquerade

open Lib Kernel Netfilter

/-! ## The three answers of the hooks -/

/-- The hooks give the connection a port of the accelerator. -/
def Accelerated (hooks : ShnatHooks) : Prop :=
  hooks.ready = true ∧ hooks.preadd ≥ 0 ∧ hooks.ftponly = 0

/-- The hooks do not take the connection, and the accelerator is on. -/
def FallsBack (hooks : ShnatHooks) : Prop :=
  hooks.ready = true ∧ ¬ (hooks.preadd ≥ 0 ∧ hooks.ftponly = 0) ∧ hooks.enable = 1

/-- The call gets as far as `ip_nat_setup_info`. -/
def Asks (call : MasqueradeCall) : Prop := call.srcIp ≠ 0 ∧ call.newsrc ≠ 0

instance (hooks : ShnatHooks) : Decidable (Accelerated hooks) := by
  unfold Accelerated
  infer_instance

instance (hooks : ShnatHooks) : Decidable (FallsBack hooks) := by
  unfold FallsBack
  infer_instance

instance (call : MasqueradeCall) : Decidable (Asks call) := by
  unfold Asks
  infer_instance

/-- An accelerated connection writes flags and ports. -/
theorem shnatRange_accelerated {hooks : ShnatHooks} (accelerated : Accelerated hooks)
    (range : NatRange) :
    shnatRange hooks range =
      { range with
        min := htons (toPort hooks.preadd)
        max := htons (toPort hooks.preadd)
        flags := ipNatRangeProtoSpecified } := by
  unfold shnatRange
  rw [if_pos accelerated.1, if_pos accelerated.2]

/-- A connection that falls back writes the ports and keeps the flags. -/
theorem shnatRange_fallsBack {hooks : ShnatHooks} (fallsBack : FallsBack hooks) (range : NatRange) :
    shnatRange hooks range =
      { range with
        min := htons 0
        max := htons (UInt16.ofNat (hnatSourcePortBase - 1)) } := by
  unfold shnatRange
  rw [if_pos fallsBack.1, if_neg fallsBack.2.1, if_pos fallsBack.2.2]

/-- Any other connection writes nothing. -/
theorem shnatRange_silent {hooks : ShnatHooks} (notAccelerated : ¬ Accelerated hooks)
    (stays : ¬ FallsBack hooks) (range : NatRange) : shnatRange hooks range = range := by
  unfold shnatRange
  by_cases ready : hooks.ready = true
  · have refused : ¬ (hooks.preadd ≥ 0 ∧ hooks.ftponly = 0) :=
      fun taken => notAccelerated ⟨ready, taken⟩
    have off : ¬ hooks.enable = 1 := fun on => stays ⟨ready, refused, on⟩
    rw [if_pos ready, if_neg refused, if_neg off]
  · rw [if_neg ready]

/-- The hooks write ports to a range, and keep the flags or write those of an accelerated
connection. -/
theorem shnatRange_writes (hooks : ShnatHooks) (range : NatRange) :
    ∃ flags min max,
      shnatRange hooks range = { range with flags := flags, min := min, max := max } ∧
      (flags = range.flags ∨ flags = ipNatRangeProtoSpecified) := by
  by_cases accelerated : Accelerated hooks
  · rw [shnatRange_accelerated accelerated]
    exact ⟨_, _, _, rfl, Or.inr rfl⟩
  · by_cases fallsBack : FallsBack hooks
    · rw [shnatRange_fallsBack fallsBack]
      exact ⟨range.flags, _, _, rfl, Or.inl rfl⟩
    · rw [shnatRange_silent accelerated fallsBack]
      exact ⟨range.flags, range.min, range.max, rfl, Or.inl rfl⟩

/-- The flags of an accelerated connection do not map addresses. -/
theorem protoSpecified_clear : ipNatRangeProtoSpecified &&& ipNatRangeMapIps = 0 := by decide

/-- The hooks never set the flag for addresses. -/
theorem shnatRange_clear (hooks : ShnatHooks) {range : NatRange}
    (clear : range.flags &&& ipNatRangeMapIps = 0) :
    (shnatRange hooks range).flags &&& ipNatRangeMapIps = 0 := by
  obtain ⟨flags, min, max, written, kept | accelerated⟩ := shnatRange_writes hooks range
  · rw [written, kept]
    exact clear
  · rw [written, accelerated]
    exact protoSpecified_clear

/-! ## Histories of calls -/

/-- The rule after a history of calls. -/
def ruleAfter (mr : NatMultiRange) (history : List MasqueradeCall) : NatMultiRange :=
  history.foldl (fun mr call => (masqueradeRange call mr).1) mr

/-- What a call passes to `ip_nat_setup_info` after a history, or its early verdict. -/
def rangeAfter (mr : NatMultiRange) (history : List MasqueradeCall) (call : MasqueradeCall) :
    Verdict ⊕ NatRange :=
  (masqueradeRange call (ruleAfter mr history)).2

/-- The range of a call that asks for one. -/
def passedRange (call : MasqueradeCall) (range : NatRange) : NatRange where
  flags := range.flags ||| ipNatRangeMapIps
  minIp := call.newsrc
  maxIp := call.newsrc
  min := range.min
  max := range.max

variable {call : MasqueradeCall}

/-- A call that asks leaves the rule that the hooks made, and passes its range. -/
theorem masqueradeRange_asks (asks : Asks call) (mr : NatMultiRange) : masqueradeRange call mr =
      ({ mr with range := shnatRange call.hooks mr.range },
        .inr (passedRange call (shnatRange call.hooks mr.range))) := by
  unfold masqueradeRange
  rw [if_neg asks.1, if_neg asks.2]
  rfl

/-- A call that does not ask has one verdict, and leaves the rule. -/
theorem masqueradeRange_early (early : ¬ Asks call) (mr : NatMultiRange) :
    masqueradeRange call mr = (mr, .inl (if call.srcIp = 0 then .accept else .drop)) := by
  unfold masqueradeRange
  by_cases local0 : call.srcIp = 0
  · rw [if_pos local0, if_pos local0]
  · have none : call.newsrc = 0 := by
      by_contra some
      exact early ⟨local0, some⟩
    rw [if_neg local0, if_neg local0, if_pos none]

/-- The rule with other flags and ports. -/
def rewritten (mr : NatMultiRange) (flags : UInt32) (min max : UInt16) : NatMultiRange :=
  { mr with range := { mr.range with flags := flags, min := min, max := max } }

/-- One call writes ports to the rule, and keeps the flags or writes those of an accelerated
connection. -/
theorem rule_step (call : MasqueradeCall) (mr : NatMultiRange) :
    ∃ flags min max, (masqueradeRange call mr).1 = rewritten mr flags min max ∧
      (flags = mr.range.flags ∨ flags = ipNatRangeProtoSpecified) := by
  by_cases asks : Asks call
  · rw [masqueradeRange_asks asks]
    obtain ⟨flags, min, max, written, origin⟩ := shnatRange_writes call.hooks mr.range
    rw [written]
    exact ⟨flags, min, max, rfl, origin⟩
  · rw [masqueradeRange_early asks]
    exact ⟨mr.range.flags, mr.range.min, mr.range.max, rfl, Or.inl rfl⟩

/-- A history writes ports to the rule, and keeps the flags or leaves those of an
accelerated connection. -/
theorem rule_after (mr : NatMultiRange) (history : List MasqueradeCall) :
    ∃ flags min max, ruleAfter mr history = rewritten mr flags min max ∧
      (flags = mr.range.flags ∨ flags = ipNatRangeProtoSpecified) := by
  induction history generalizing mr with
  | nil => exact ⟨mr.range.flags, mr.range.min, mr.range.max, rfl, Or.inl rfl⟩
  | cons call rest ih =>
    obtain ⟨flags, min, max, step, origin⟩ := rule_step call mr
    obtain ⟨flags', min', max', run, origin'⟩ := ih (masqueradeRange call mr).1
    have whole : ruleAfter mr (call :: rest) = rewritten mr flags' min' max' := by
      change ruleAfter (masqueradeRange call mr).1 rest = _
      rw [run, step]
      rfl
    refine ⟨flags', min', max', whole, ?_⟩
    rcases origin' with kept | accelerated
    · rw [kept, step]
      exact origin
    · exact Or.inr accelerated

variable {mr : NatMultiRange}

/-- An installed rule does not map addresses, whatever the history. -/
theorem flags_clear (clear : mr.range.flags &&& ipNatRangeMapIps = 0)
    (history : List MasqueradeCall) :
    (ruleAfter mr history).range.flags &&& ipNatRangeMapIps = 0 := by
  obtain ⟨flags, min, max, after, origin⟩ := rule_after mr history
  rw [after]
  rcases origin with kept | accelerated
  · exact kept ▸ clear
  · exact accelerated ▸ protoSpecified_clear

/-- The check of an installed rule refuses the flag for addresses. -/
theorem masqueradeCheck_clear {size targinfosize : Nat} {tablename : String} {hookMask : UInt32}
    (installed : masqueradeCheck size tablename mr targinfosize hookMask = true) :
    mr.range.flags &&& ipNatRangeMapIps = 0 := by
  unfold masqueradeCheck at installed
  by_contra mapped
  have refused : mr.range.mapIps = true := by
    unfold NatRange.mapIps
    exact bne_iff_ne.mpr mapped
  simp [refused] at installed

/-! ## Independence -/

/-- The ranges that two rules give to one call agree exactly when the hooks leave the same
flags and ports. -/
theorem passedRange_eq_iff (call : MasqueradeCall) {r s : NatRange}
    (clear : r.flags &&& ipNatRangeMapIps = 0) (clear' : s.flags &&& ipNatRangeMapIps = 0) :
    passedRange call r = passedRange call s ↔
      r.flags = s.flags ∧ r.min = s.min ∧ r.max = s.max := by
  constructor
  · intro same
    have flags : r.flags ||| ipNatRangeMapIps = s.flags ||| ipNatRangeMapIps :=
      congrArg NatRange.flags same
    have min : (passedRange call r).min = (passedRange call s).min := congrArg NatRange.min same
    have max : (passedRange call r).max = (passedRange call s).max := congrArg NatRange.max same
    exact ⟨or_mask_inj clear clear' flags, min, max⟩
  · rintro ⟨flags, min, max⟩
    unfold passedRange
    rw [flags, min, max]

section Histories

variable {mr : NatMultiRange} (clear : mr.range.flags &&& ipNatRangeMapIps = 0)
  {call : MasqueradeCall} (asks : Asks call) (h₁ h₂ : List MasqueradeCall)

include clear asks

/-- Two histories give a call the same range when the hooks make the same flags and ports of
the rules that they leave. -/
theorem rangeAfter_eq_iff :
    rangeAfter mr h₁ call = rangeAfter mr h₂ call ↔
      let r := shnatRange call.hooks (ruleAfter mr h₁).range
      let s := shnatRange call.hooks (ruleAfter mr h₂).range
      r.flags = s.flags ∧ r.min = s.min ∧ r.max = s.max := by
  unfold rangeAfter
  rw [masqueradeRange_asks asks, masqueradeRange_asks asks, Sum.inr.injEq]
  exact passedRange_eq_iff call (shnatRange_clear _ (flags_clear clear h₁))
    (shnatRange_clear _ (flags_clear clear h₂))

/-- An accelerated call has its range from the hooks alone. -/
theorem rangeAfter_accelerated (accelerated : Accelerated call.hooks) :
    rangeAfter mr h₁ call = rangeAfter mr h₂ call := by
  rw [rangeAfter_eq_iff clear asks]
  simp only [shnatRange_accelerated accelerated, and_self]

/-- A call that falls back depends on the flags that the history left. -/
theorem rangeAfter_fallsBack (fallsBack : FallsBack call.hooks) :
    rangeAfter mr h₁ call = rangeAfter mr h₂ call ↔
      (ruleAfter mr h₁).range.flags = (ruleAfter mr h₂).range.flags := by
  rw [rangeAfter_eq_iff clear asks]
  simp only [shnatRange_fallsBack fallsBack, and_true]

/-- Any other call depends on the whole rule that the history left. -/
theorem rangeAfter_silent (notAccelerated : ¬ Accelerated call.hooks)
    (stays : ¬ FallsBack call.hooks) :
    rangeAfter mr h₁ call = rangeAfter mr h₂ call ↔ ruleAfter mr h₁ = ruleAfter mr h₂ := by
  rw [rangeAfter_eq_iff clear asks]
  simp only [shnatRange_silent notAccelerated stays]
  obtain ⟨flags, min, max, after, _⟩ := rule_after mr h₁
  obtain ⟨flags', min', max', after', _⟩ := rule_after mr h₂
  rw [after, after']
  constructor
  · intro same
    have flags_eq : flags = flags' := same.1
    have min_eq : min = min' := same.2.1
    have max_eq : max = max' := same.2.2
    rw [flags_eq, min_eq, max_eq]
  · intro same
    rw [same]
    exact ⟨rfl, rfl, rfl⟩

end Histories

/-- A call that does not ask has its verdict whatever the history. -/
theorem rangeAfter_early (mr : NatMultiRange) (early : ¬ Asks call) (h₁ h₂ : List MasqueradeCall) :
    rangeAfter mr h₁ call = rangeAfter mr h₂ call := by
  unfold rangeAfter
  rw [masqueradeRange_early early, masqueradeRange_early early]

/-- A call that the accelerator takes, on port `port`. -/
def acceleratedCall (port : Int32) : MasqueradeCall := ⟨⟨true, port, 0, 1⟩, 1, 1⟩

/-- An accelerated call leaves its own flags and port in the rule. -/
theorem ruleAfter_acceleratedCall (mr : NatMultiRange) {port : Int32} (taken : port ≥ 0) :
    ruleAfter mr [acceleratedCall port] =
      rewritten mr ipNatRangeProtoSpecified (htons (toPort port)) (htons (toPort port)) := by
  have address : (1 : UInt32) ≠ 0 := by decide
  have asks : Asks (acceleratedCall port) := ⟨address, address⟩
  have accelerated : Accelerated (acceleratedCall port).hooks := ⟨rfl, taken, rfl⟩
  change (masqueradeRange (acceleratedCall port) mr).1 = _
  rw [masqueradeRange_asks asks, shnatRange_accelerated accelerated]
  rfl

/-- A call that falls back is independent of all histories on the flags of an accelerated
connection only: one such connection before the call leaves them in the rule. -/
theorem always_fallsBack (clear : mr.range.flags &&& ipNatRangeMapIps = 0) (asks : Asks call)
    (fallsBack : FallsBack call.hooks) : (∀ h₁ h₂, rangeAfter mr h₁ call = rangeAfter mr h₂ call) ↔
      mr.range.flags = ipNatRangeProtoSpecified := by
  constructor
  · intro always
    have flags := (rangeAfter_fallsBack clear asks [] [acceleratedCall 0] fallsBack).mp (always _ _)
    rw [ruleAfter_acceleratedCall mr (by decide)] at flags
    exact flags
  · intro proto h₁ h₂
    have fixed : ∀ h, (ruleAfter mr h).range.flags = ipNatRangeProtoSpecified := by
      intro h
      obtain ⟨flags, min, max, after, kept | written⟩ := rule_after mr h
      · rw [after]
        exact kept.trans proto
      · rw [after]
        exact written
    rw [rangeAfter_fallsBack clear asks h₁ h₂ fallsBack, fixed h₁, fixed h₂]

/-- A call on which the hooks are silent is never independent: accelerated connections on two
ports leave two rules. -/
theorem not_always_silent (clear : mr.range.flags &&& ipNatRangeMapIps = 0) (asks : Asks call)
    (notAccelerated : ¬ Accelerated call.hooks) (stays : ¬ FallsBack call.hooks) :
    ¬ ∀ h₁ h₂, rangeAfter mr h₁ call = rangeAfter mr h₂ call := by
  intro always
  have rules := (rangeAfter_silent clear asks [acceleratedCall 0] [acceleratedCall 1]
    notAccelerated stays).mp (always _ _)
  rw [ruleAfter_acceleratedCall mr (by decide), ruleAfter_acceleratedCall mr (by decide)] at rules
  have ports : htons (toPort 0) = htons (toPort 1) := congrArg (fun rule => rule.range.min) rules
  exact absurd ports (by decide)

/-- Two histories on an installed rule give a call the same range exactly when the call asks
for none, is accelerated, falls back on equal flags, or meets equal rules. So the range of
a call is independent of all histories exactly when the call asks for none, is accelerated,
or falls back on a rule that was installed with the flags of an accelerated connection. -/
theorem masquerade_independent_iff {size targinfosize : Nat} {tablename : String}
    {mr : NatMultiRange} {hookMask : UInt32}
    (installed : masqueradeCheck size tablename mr targinfosize hookMask = true)
    (call : MasqueradeCall) :
    (∀ h₁ h₂, rangeAfter mr h₁ call = rangeAfter mr h₂ call ↔
      ¬ Asks call ∨ Accelerated call.hooks ∨
      (FallsBack call.hooks ∧ (ruleAfter mr h₁).range.flags = (ruleAfter mr h₂).range.flags) ∨
      ruleAfter mr h₁ = ruleAfter mr h₂) ∧
    ((∀ h₁ h₂, rangeAfter mr h₁ call = rangeAfter mr h₂ call) ↔
      ¬ Asks call ∨ Accelerated call.hooks ∨
      (FallsBack call.hooks ∧ mr.range.flags = ipNatRangeProtoSpecified)) := by
  have clear := masqueradeCheck_clear installed
  by_cases asks : Asks call
  swap
  · have same := rangeAfter_early mr asks
    exact ⟨fun h₁ h₂ => iff_of_true (same h₁ h₂) (Or.inl asks), iff_of_true same (Or.inl asks)⟩
  by_cases accelerated : Accelerated call.hooks
  · have same := fun h₁ h₂ => rangeAfter_accelerated clear asks h₁ h₂ accelerated
    have taken {rest : Prop} : ¬ Asks call ∨ Accelerated call.hooks ∨ rest :=
      Or.inr (Or.inl accelerated)
    exact ⟨fun h₁ h₂ => iff_of_true (same h₁ h₂) taken, iff_of_true same taken⟩
  by_cases fallsBack : FallsBack call.hooks
  · have weaker : ∀ h₁ h₂, ruleAfter mr h₁ = ruleAfter mr h₂ →
        (ruleAfter mr h₁).range.flags = (ruleAfter mr h₂).range.flags :=
      fun _ _ same => congrArg (fun rule => rule.range.flags) same
    simp only [asks, accelerated, fallsBack, not_true_eq_false, true_and, false_or]
    refine ⟨fun h₁ h₂ => ?_, always_fallsBack clear asks fallsBack⟩
    rw [rangeAfter_fallsBack clear asks h₁ h₂ fallsBack]
    exact (or_iff_left_of_imp (weaker h₁ h₂)).symm
  · simp only [asks, accelerated, fallsBack, not_true_eq_false, false_and, false_or, iff_false]
    exact ⟨fun h₁ h₂ => rangeAfter_silent clear asks h₁ h₂ accelerated fallsBack,
      not_always_silent clear asks accelerated fallsBack⟩

/-- A rule as `iptables -j MASQUERADE` installs it: no ports, no flags. -/
def plainRule : NatMultiRange := ⟨1, ⟨0, 0, 0, 0, 0⟩⟩

/-- A call that the accelerator refuses. -/
def refusedCall : MasqueradeCall := ⟨⟨true, -1, 0, 1⟩, 1, 1⟩

/-- The law for an accelerated call on a plain rule. -/
theorem masquerade_independent_accelerated :
    masqueradeCheck 20 "nat" plainRule 20 16 = true ∧
    rangeAfter plainRule [acceleratedCall 50007, refusedCall] (acceleratedCall 50001) =
      rangeAfter plainRule [] (acceleratedCall 50001) :=
  ⟨by decide,
    (masquerade_independent_iff (show masqueradeCheck 20 "nat" plainRule 20 16 = true by decide)
      (acceleratedCall 50001)).2.mpr (Or.inr (Or.inl (by decide))) _ _⟩

/-- One accelerated connection on a plain rule: the next call, with the accelerator not
ready, is given the single port of the first, where it would have had no port range. -/
theorem masquerade_remembers :
    masqueradeCheck 20 "nat" plainRule 20 16 = true ∧
    let call : MasqueradeCall := ⟨⟨false, 0, 0, 0⟩, 1, 1⟩
    rangeAfter plainRule [] call = .inr ⟨1, 1, 1, 0, 0⟩ ∧
    rangeAfter plainRule [acceleratedCall 50001] call = .inr ⟨3, 1, 1, htons 50001, htons 50001⟩ ∧
    rangeAfter plainRule [acceleratedCall 50001] call ≠ rangeAfter plainRule [] call := by
  decide

end Fvs318g.Verif.Masquerade
