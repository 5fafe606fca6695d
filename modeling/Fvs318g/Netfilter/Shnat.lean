import Fvs318g.Netfilter.Nat

/-!
# Hardware translation hooks

The two places where the accelerator chooses the source port of a connection:
`masquerade_target` of `ipt_MASQUERADE.c` and `ip_nat_follow_master` of
`ip_nat_helper.c`, both with `CONFIG_STR9100_SHNAT`. The hooks are function pointers of the
accelerator's driver; a call of the model is given the answers they return.
-/

namespace Fvs318g.Netfilter

open Kernel

/-- `HNAT_SOURCE_PORT_BASE`. -/
def hnatSourcePortBase : Nat := 50000

/-- What the hooks answer during one call. -/
structure ShnatHooks where
  /-- `star9100_shnat_hook_ready`. -/
  ready : Bool
  /-- The result of the pre-add hook. -/
  preadd : Int32
  /-- `star9100_shnat_check_ftponly_enable_hook()`. -/
  ftponly : Int32
  /-- `star9100_shnat_check_shnat_enable_hook()`. -/
  enable : Int32
  deriving DecidableEq, Repr

/-- The conversion of an `int` to the argument of `htons`. -/
def toPort (x : Int32) : UInt16 := x.toUInt32.toUInt16

/-! ## `MASQUERADE` -/

/-- `struct ip_nat_multi_range_compat`, the rule that the administrator installs. -/
structure NatMultiRange where
  /-- `rangesize`. -/
  rangesize : UInt32
  /-- `range[0]`. -/
  range : NatRange
  deriving DecidableEq, Repr

/-- `masquerade_check`, for a size of the rule of `size` bytes with its alignment. -/
def masqueradeCheck (size : Nat) (tablename : String) (mr : NatMultiRange)
    (targinfosize : Nat) (hookMask : UInt32) : Bool :=
  if tablename ≠ "nat" then false
  else if targinfosize ≠ size then false
  else if hookMask &&& ~~~ ((1 : UInt32) <<< 4) ≠ 0 then false
  else if mr.range.mapIps then false
  else if mr.rangesize ≠ 1 then false
  else true

/-- What the hooks make of the first range of the rule. -/
def shnatRange (hooks : ShnatHooks) (range : NatRange) : NatRange :=
  if hooks.ready then
    if hooks.preadd ≥ 0 ∧ hooks.ftponly = 0 then
      { range with
        min := htons (toPort hooks.preadd)
        max := htons (toPort hooks.preadd)
        flags := ipNatRangeProtoSpecified }
    else if hooks.enable = 1 then
      { range with
        min := htons 0
        max := htons (UInt16.ofNat (hnatSourcePortBase - 1)) }
    else range
  else range

/-- The verdicts of a target. -/
inductive Verdict where
  /-- `NF_DROP`. -/
  | drop
  /-- `NF_ACCEPT`. -/
  | accept
  deriving DecidableEq, Repr

/-- One call of `masquerade_target`: what it reads besides the rule. -/
structure MasqueradeCall where
  /-- The answers of the hooks. -/
  hooks : ShnatHooks
  /-- The source address of the connection. -/
  srcIp : UInt32
  /-- `newsrc`, the answer of `inet_select_addr`. -/
  newsrc : UInt32
  deriving DecidableEq, Repr

/-- `masquerade_target` up to the call of `ip_nat_setup_info`: the rule that it leaves, and
the range for that call or an early verdict. -/
def masqueradeRange (call : MasqueradeCall) (mr : NatMultiRange) :
    NatMultiRange × (Verdict ⊕ NatRange) :=
  if call.srcIp = 0 then (mr, .inl .accept)
  else if call.newsrc = 0 then (mr, .inl .drop)
  else
    -- the range is written through the pointer to the rule
    let mr := { mr with range := shnatRange call.hooks mr.range }
    (mr, .inr
      { flags := mr.range.flags ||| ipNatRangeMapIps
        minIp := call.newsrc
        maxIp := call.newsrc
        min := mr.range.min
        max := mr.range.max })

/-- `masquerade_target` for the connection at `conntrack`, leaving by device `ifindex` with
address `newsrc`; nothing stands for `BUG_ON` in `ip_nat_setup_info`. -/
def masqueradeTarget (hooks : ShnatHooks) (newsrc : UInt32) (ifindex : Nat) (w : NatTables)
    (conntrack : Nat) (mr : NatMultiRange) : Option (Verdict × NatMultiRange × NatTables) :=
  let ct := w.conntrack conntrack
  match masqueradeRange ⟨hooks, ct.original.src.ip, newsrc⟩ mr with
  | (mr, .inl verdict) => some (verdict, mr, w)
  | (mr, .inr newrange) => do
    let w := w.set conntrack { ct with masqIndex := ifindex }
    let w ← ipNatSetupInfo w conntrack newrange .postRouting
    return (.accept, mr, w)

/-! ## `ip_nat_follow_master` -/

/-- The fields of `struct ip_conntrack_expect` that the expected connection is set up
from. -/
structure Expect where
  /-- `dir`. -/
  dir : Dir
  /-- `saved_proto.all`. -/
  savedProto : UInt16
  deriving DecidableEq, Repr

/-- The test for an FTP data connection of the kinds that the accelerator takes: passive
mode from the inside, or port mode towards the inside. -/
def ftpData (ct master : Conntrack) : Bool :=
  htons master.original.dst.all == 21 &&
    ((htons ct.reply.dst.all == 20 && master.original.dst.ip == ct.original.dst.ip) ||
      (htons master.original.dst.all == 21 && ct.original.dst.ip == master.original.dst.ip &&
        ct.reply.dst.ip != master.reply.dst.ip))

/-- What the hooks make of the source range of an expected connection. -/
def followRange (hooks : ShnatHooks) (ct master : Conntrack) (range : NatRange) : NatRange :=
  if hooks.ready ∧ ftpData ct master then
    let hnatHash := hooks.preadd + Int32.ofNat hnatSourcePortBase
    if hnatHash ≥ 0 ∧ hooks.ftponly = 0 then
      { range with
        min := htons (toPort hnatHash)
        max := htons (toPort hnatHash)
        flags := range.flags ||| ipNatRangeProtoSpecified }
    else if hooks.enable = 1 then
      { range with
        min := htons 0
        max := htons (UInt16.ofNat (hnatSourcePortBase - 1)) }
    else range
  else range

/-- `ip_nat_follow_master`; nothing stands for `BUG_ON`. The ports of the range are not
initialised before the hooks: `stale` is what the stack holds there. -/
def ipNatFollowMaster (hooks : ShnatHooks) (stale : UInt16 × UInt16) (w : NatTables)
    (conntrack master : Nat) (exp : Expect) : Option NatTables := do
  let ct := w.conntrack conntrack
  if ct.natDone then none
  else
    let srcIp := ((w.conntrack master).tuplehash exp.dir.flip).dst.ip
    let range := followRange hooks ct (w.conntrack master)
      ⟨ipNatRangeMapIps, srcIp, srcIp, stale.1, stale.2⟩
    let w ← ipNatSetupInfo w conntrack range .postRouting
    let dstIp := ((w.conntrack master).tuplehash exp.dir.flip).src.ip
    ipNatSetupInfo w conntrack
      ⟨ipNatRangeMapIps ||| ipNatRangeProtoSpecified, dstIp, dstIp, exp.savedProto,
        exp.savedProto⟩ .preRouting

end Fvs318g.Netfilter
