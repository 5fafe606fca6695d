import Fvs318g.Lib.CString
import Fvs318g.Netfilter.Nat

/-!
# The filter for spoofed packets in `icmp_send`

Before `icmp_send` answers a packet whose time to live is used up, it asks which interface the
source address belongs to, and takes an exit for packets that came by another one. Modelled are
`getValidIfaceName` and `icmp_send` up to the end of this check, with the check switched on and the
text that is logged. Addresses are in network byte order. A store beyond the caller's buffer is no
result.
-/

namespace Fvs318g.Net

open Lib Netfilter

/-- `IFNAMSIZ`. -/
def ifnamsiz : Nat := 16

/-- The fields of `struct in_ifaddr` that are read. -/
structure InIfaddr where
  /-- `ifa_address`. -/
  address : UInt32
  /-- `ifa_mask`. -/
  mask : UInt32
  /-- `IFA_F_SECONDARY`. -/
  secondary : Bool
  deriving DecidableEq, Repr

/-- `struct in_device`. -/
structure InDevice where
  /-- `ifa_list`. -/
  ifaList : List InIfaddr
  /-- `inet_insert_ifa` keeps the primary addresses in front. -/
  ordered : ifaList.Pairwise fun a b => a.secondary = true → b.secondary = true

/-- `struct net_device`. -/
structure IfDevice where
  /-- The string in `name`. -/
  name : List UInt8
  /-- It leaves room for its zero. -/
  name_lt : name.length < ifnamsiz
  /-- It has no other zero. -/
  name_clean : (0 : UInt8) ∉ name
  /-- It is not empty: `dev_valid_name`. -/
  name_ne : name ≠ []
  /-- `ip_ptr`. -/
  inDev : Option InDevice

/-- The list at `dev_base`. -/
structure DevBase where
  /-- The devices, in order. -/
  devices : List IfDevice
  /-- `register_netdevice` refuses a name that another device has. -/
  distinct : (devices.map IfDevice.name).Nodup

/-- The array `name`. -/
def IfDevice.nameArray (dev : IfDevice) : List UInt8 := padded ifnamsiz dev.name

/-- `LOOPBACK`. -/
def loopback (x : UInt32) : Bool := (x &&& htonl 0xff000000) == htonl 0x7f000000

/-- The loop over the primary addresses of one interface: one of them has the address in its
subnet. -/
def primaryMatch (ipAddr : UInt32) : List InIfaddr → Bool
  | [] => false
  | ifa :: rest =>
    if ifa.secondary then false
    else if loopback ifa.address then primaryMatch ipAddr rest
    else if htonl ifa.address &&& htonl ifa.mask = htonl ipAddr &&& htonl ifa.mask then true
    else primaryMatch ipAddr rest

/-- `getValidIfaceName`, over the list at `dev_base`. -/
def getValidIfaceName (ipAddr : UInt32) (ifName : List UInt8) : List IfDevice → Option (List UInt8)
  | [] => some ifName
  | dev :: rest =>
    match dev.inDev with
    | none => getValidIfaceName ipAddr ifName rest
    | some inDev =>
      if primaryMatch ipAddr inDev.ifaList then strcpy ifName 0 dev.nameArray
      else getValidIfaceName ipAddr ifName rest

/-! ## The log -/

/-- `skb_header_pointer`, over all the bytes of a buffer. -/
def skbHeaderPointer (data : List UInt8) (offset len : Nat) : Option (List UInt8) :=
  if offset + len ≤ data.length then some ((data.drop offset).take len) else none

/-- A byte of a header. -/
def headerByte (header : List UInt8) (i : Nat) : Nat := (header.getD i 0).toNat

/-- A 16-bit field of a header in host order. -/
def headerWord (header : List UInt8) (i : Nat) : Nat :=
  headerByte header i * 256 + headerByte header (i + 1)

/-- An address of a header as it is printed. -/
def headerQuad (header : List UInt8) (i : Nat) : String :=
  ".".intercalate ([i, i + 1, i + 2, i + 3].map fun j => toString (headerByte header j))

/-- `IP_OFFSET`. -/
def ipOffset : Nat := 0x1fff

/-- The text about the layer above, for one protocol; a later fragment has no header of its own. -/
def layerText (data ih : List UInt8) (proto : String) (len : Nat) (text : List UInt8 → String) :
    Option String :=
  if headerWord ih 6 &&& ipOffset ≠ 0 then some proto
  else
    (skbHeaderPointer data ((headerByte ih 0 &&& 15) * 4) len).map fun header =>
      proto ++ text header

/-- The text in `logBuff`; nothing is printed when a header is missing. -/
def spoofLog (data : List UInt8) : Option String := do
  let ih ← skbHeaderPointer data 0 20
  let addresses := "SRC=" ++ headerQuad ih 12 ++ " DST=" ++ headerQuad ih 16 ++ " "
  let layer ←
    match headerByte ih 9 with
    | 6 => layerText data ih "PROTO=TCP " 20 fun th =>
        "SPT=" ++ toString (headerWord th 0) ++ " DPT=" ++ toString (headerWord th 2) ++ " "
    | 17 => layerText data ih "PROTO=UDP " 8 fun uh =>
        "SPT=" ++ toString (headerWord uh 0) ++ " DPT=" ++ toString (headerWord uh 2)
    | 1 => layerText data ih "PROTO=ICMP " 8 fun ich =>
        "TYPE=" ++ toString (headerByte ich 0) ++ " CODE=" ++ toString (headerByte ich 1) ++ " "
    | protocol => some ("PROTO=" ++ toString protocol ++ " ")
  some ("[SPOOFED][DROP] " ++ addresses ++ layer ++ "\n")

/-! ## The check -/

/-- What the check reads of the packet. -/
structure IcmpSkb where
  /-- `dev`. -/
  dev : IfDevice
  /-- `nh.iph->ttl`. -/
  ttl : UInt8
  /-- `nh.iph->saddr`. -/
  saddr : UInt32
  /-- The bytes of the buffer. -/
  data : List UInt8

/-- How `icmp_send` leaves the check. -/
inductive IcmpPath where
  /-- By the exit for spoofed packets, with what it prints. -/
  | spoofed (log : Option String)
  /-- To the rest of the function. -/
  | goesOn
  deriving DecidableEq, Repr

/-- `sizeof(ifName)`. -/
def ifNameSize : Nat := 10

/-- `LOOPBACK_INT_NAME`. -/
def loopbackIntName : List UInt8 := [0x6c, 0x6f]

/-- No name was found, or it is not the one of the interface. -/
def nameInvalid (dev : IfDevice) (ifName : List UInt8) : Option Bool :=
  if ifName[0]? = some 0 then some true else (strcmp dev.nameArray ifName).map (· != 0)

/-- `icmp_send` up to the end of the check. -/
def icmpSend (tf1LogSpoofedPkt : Bool) (devBase : List IfDevice) (skb : IcmpSkb) :
    Option IcmpPath :=
  if tf1LogSpoofedPkt ∧ (skb.ttl = 1 ∨ skb.ttl = 0) then do
    let ifName ← getValidIfaceName skb.saddr (List.replicate ifNameSize 0) devBase
    if ← nameInvalid skb.dev ifName then
      let order ← strcmp skb.dev.nameArray (loopbackIntName ++ [0])
      if order ≠ 0 then some (.spoofed (spoofLog skb.data)) else some .goesOn
    else some .goesOn
  else some .goesOn

end Fvs318g.Net
