import Rk3399.Common.Strings
import Rk3399.SimpleConfig.Model.SsidText
/-!
# The configuration of the supplicant

`ssid_rework` and `store_cfgfile`. Strings are without their NUL; a string that
does not fit its buffer is the fault `none`. The passphrase is what
`rtk_sc_get_string_value` copies for `SC_PASSWORD`.
-/

namespace Rk3399

namespace SimpleConfig

/-- The text `sprintf` and `strcpy` leave in a buffer of `size` bytes. -/
def fit (size : Nat) (text : List UInt8) : Option (List UInt8) :=
  if text.length < size then some text else none

/-- `before[i] < 32 || before[i] > 127`, whether `char` is signed or not. -/
def notAscii (c : UInt8) : Bool := c < 32 || 127 < c

/-- `%02x` of a byte. -/
def hexPair (b : UInt8) : List UInt8 := [hexChar (b.toNat / 16), hexChar (b.toNat % 16)]

/-- `ssid_rework`, whose buffer is `after[32 * 4 + 1]`. -/
def ssidRework (before : Option (List UInt8)) : Option (List UInt8) :=
  match before with
  | none => some []
  | some before =>
    if before.any notAscii then fit (32 * 4 + 1) (before.flatMap hexPair)
    else fit (32 * 4 + 1) (34 :: before ++ [34])

/-- The types of `store_cfgfile`, `CFGFILE_*`. -/
inductive CfgfileType where
  | open
  | wpa
  | wep
  | other
  deriving DecidableEq, Repr

/-- `commset`. -/
def commset (ifName : List UInt8) : List UInt8 :=
  chars "update_config=1\nctrl_interface=/data/" ++ ifName ++
    chars "\neapol_version=1\nfast_reauth=1\n"

/-- `WPAstr`. -/
def wpaStr (ssid passwd : List UInt8) : List UInt8 :=
  chars "ap_scan=1\nnetwork=\x7b\n\tssid=" ++ ssid ++ chars "\n\tscan_ssid=1\n\tpsk=\"" ++ passwd ++
    chars "\"\n\x7d\n"

/-- `OPENstr`. -/
def openStr (ssid : List UInt8) : List UInt8 :=
  chars "ap_scan=1\nnetwork=\x7b\n\tssid=" ++ ssid ++
    chars "\n\tkey_mgmt=NONE\n\tscan_ssid=1\n\x7d\n"

/-- `WEPstr`. -/
def wepStr (ssid passwd : List UInt8) : List UInt8 :=
  chars "ap_scan=1\nnetwork=\x7b\n\tssid=" ++ ssid ++ chars "\n\tkey_mgmt=NONE\n\twep_key0=" ++
    passwd ++ chars "\n\twep_tx_keyidx=0\n\tscan_ssid=1\n\x7d\n"

/-- The network block of a type, `char CmdStr[2048]` and `passwd[65]` holding it and the
passphrase. There is none for a type that is unknown. -/
def networkBlock (ssid : Option (List UInt8)) (password : List UInt8) :
    CfgfileType → Option (Option (List UInt8))
  | .open => do
    let text ← ssidRework ssid
    some <$> fit 2048 (openStr text)
  | .wpa => do
    let passwd ← fit 65 password
    let text ← ssidRework ssid
    some <$> fit 2048 (wpaStr text passwd)
  | .wep => do
    let passwd ← fit 65 password
    let text ← ssidRework ssid
    some <$> fit 2048 (wepStr text passwd)
  | .other => some none

def ENOENT : Int := 2
def EINVAL : Int := 22

/-- The return value of `store_cfgfile`, and what is in the file. -/
structure Stored where
  ret : Int
  content : List UInt8
  deriving DecidableEq, Repr

/-- `store_cfgfile`, for the interface `ifName`. -/
def storeCfgfile (opened : Bool) (ifName : List UInt8) (ssid : Option (List UInt8))
    (password : List UInt8) (cfgfileType : CfgfileType) : Option Stored :=
  if opened then do
    let common ← fit 2048 (commset ifName)
    let network ← networkBlock ssid password cfgfileType
    match network with
    | some text => some ⟨0, common ++ text⟩
    | none => some ⟨-EINVAL, common⟩
  else some ⟨-ENOENT, []⟩

end SimpleConfig

end Rk3399
