import UcosProxy.PortCgi
import UcosProxy.UpdateThread

/-!
# The registered handlers

`ppcURLs` registers ten handlers. The port pages and the choice of a side are in
`PortCgi`; here are the others, and the table with all of them over one state. A
handler names the page to send and leaves the state behind it, or faults at the first
access that its request does not cover.

Accounts are texts: `web_account_read` gives two strings in buffers of 64 bytes, and
`web_account_write` stores them. `inet_addr` and `ip_msk_gw_validation` belong to the
network stack and to the main configuration and are parameters.
-/

namespace UcosProxy.CgiHandlers

open Bytes UriParameters CgiAccess ControlTables PortCgi UpdateThread

/-- `struct web_account`, as its two strings. -/
structure WebAccount where
  username : List Byte
  passwd : List Byte
deriving DecidableEq

/-- The addresses in `struct tagGlobalConfigS`. They are words in the order of the host, as
`ntohl` leaves them. -/
structure GlobalConfig where
  hostIp : BitVec 32
  netmask : BitVec 32
  gateway : BitVec 32
  jumpIp : BitVec 32
deriving DecidableEq

/-- The stored configuration, the live settings and the status of the network page. A
request that is refused leaves the first two alone and changes the status. -/
structure NetState where
  globalCfg : GlobalConfig
  ipaddr : BitVec 32
  netmask : BitVec 32
  gw : BitVec 32
  netConfigStatus : Int
deriving DecidableEq

/-- What the update page shares with the update thread. The status is reduced to whether an
update is shown, which is all that a request sets. -/
structure UpdateState where
  totalFileLen : Nat
  fileLen : Nat
  updateFilename : List Byte
  doing : Bool
  posts : Nat
deriving DecidableEq

/-- Everything that a handler may change. A handler returns a page and one of these, and
nothing else of the server is touched by it. -/
structure CgiState where
  web : WebState
  account : WebAccount
  accountStatus : Int
  net : NetState
  rebootSet : Bool
  update : UpdateState

/-- The code around the handlers, and the link they meet. The two network functions are not
in this repository, and the results name what they need of them. -/
structure Environment where
  codes : Codes
  link : Link
  inetAddr : List Byte → BitVec 32
  ipMskGwValidation : BitVec 32 → BitVec 32 → BitVec 32 → Bool

/-- A handler: the page it names and the state it leaves. -/
abbrev Handler := Environment → List Param → CgiState → Except Fault (String × CgiState)

/-- `ntohl` on a little-endian processor. -/
def ntohl (word : BitVec 32) : BitVec 32 :=
  word.setWidth 8 ++ (word >>> 8).setWidth 8 ++ (word >>> 16).setWidth 8 ++ (word >>> 24).setWidth 8

/-- `strcpy` of a text into a buffer: its terminator needs a byte too. -/
def strcpy (size : Nat) (source : List Byte) : Except Fault (List Byte) :=
  if source.length < size then .ok source else .error .overrun

/-- `login_cgi_interface` -/
def loginCgiInterface : Handler := fun _ _ state => .ok ("/assets/ajax/login.ajax", state)

/-- `panel_cgi_interface` -/
def panelCgiInterface : Handler := fun _ _ state => .ok ("/assets/ajax/panel.ajax", state)

/-- `reboot_cgi_interface`: the one handler besides the port fields that looks at the
answer of `FindCGIParameter`, and it needs no value. -/
def rebootCgiInterface : Handler := fun _ params state =>
  if findCgiParameter (ascii "reboot") params ≠ none then
    .ok ("/assets/ajax/reboot.ajax", { state with rebootSet := true })
  else .ok ("/assets/ajax/reboot.ajax", state)

/-- The two comparisons of `account_cgi_interface`: the password is looked up only
behind the right name. -/
def accountMatches (params : List Param) (account : WebAccount) : Except Fault Bool := do
  let curUser ← valueOf "cur_user" params
  if curUser ≠ account.username then .ok false
  else do
    let curPasswd ← valueOf "cur_passwd" params
    .ok (curPasswd == account.passwd)

/-- `account_cgi_interface`. The new account is stored once the old one has been given, and
each of its strings is copied into 64 bytes without a check. -/
def accountCgiInterface : Handler := fun _ params state =>
  if params.length < 2 then .ok ("/assets/ajax/account.ajax", { state with accountStatus := 1 })
  else do
    let same ← accountMatches params state.account
    if same = false then .ok ("/assets/ajax/account.ajax", { state with accountStatus := 2 })
    else do
      let newUser ← valueOf "new_user" params
      let username ← strcpy 64 newUser
      let newPasswd ← valueOf "new_passwd" params
      let passwd ← strcpy 64 newPasswd
      .ok ("/assets/ajax/account.ajax",
        { state with account := ⟨username, passwd⟩, accountStatus := 0 })

/-- `net_cgi_interface`. The four addresses are converted first and checked together; the
manager's address is not part of the check. -/
def netCgiInterface : Handler := fun env params state =>
  if params.length < 2 then .ok ("/assets/ajax/net_read.ajax", state)
  else do
    let devIp ← valueOf "dev_ip" params
    let devMask ← valueOf "dev_mask" params
    let devGateway ← valueOf "dev_gateway" params
    let mngIp ← valueOf "mng_ip" params
    let globalCfg : GlobalConfig :=
      ⟨ntohl (env.inetAddr devIp), ntohl (env.inetAddr devMask), ntohl (env.inetAddr devGateway),
        ntohl (env.inetAddr mngIp)⟩
    if env.ipMskGwValidation globalCfg.hostIp globalCfg.netmask globalCfg.gateway = false then
      .ok ("/assets/ajax/net_write.ajax", { state with net := { state.net with netConfigStatus := -1 } })
    else
      .ok ("/assets/ajax/net_write.ajax",
        { state with
          net := ⟨globalCfg, globalCfg.hostIp, globalCfg.netmask, globalCfg.gateway, 0⟩ })

/-- `update_cgi_interface`: the value goes through two buffers of 128 bytes, the second
one inside `update_filename_crop`, into `update_filename`. -/
def updateCgiInterface : Handler := fun _ params state =>
  if params.length < 2 then .ok ("/assets/ajax/update_status.ajax", state)
  else do
    let value ← valueOf "filename" params
    let tmp ← strcpy 128 value
    let raw ← strcpy 128 tmp
    let updateFilename ← strcpy 64 (updateFilenameCrop raw)
    .ok ("/assets/ajax/update_status.ajax",
      { state with
        update :=
          { totalFileLen := (atoi value % TftpClient.u32Modulus).toNat
            fileLen := 0
            updateFilename := updateFilename
            doing := true
            posts := Semaphore.osSemPost state.update.posts } })

/-- A port page or the choice of a side, over the whole state. -/
def overWeb (served : WebState → Except Fault Served) (state : CgiState) :
    Except Fault (String × CgiState) := do
  let after ← served state.web
  .ok (after.page, { state with web := after.web })

/-- The entries of `ppcURLs`. Each of them has one handler, which gets the parameters of its
request. -/
inductive Cgi
  | login
  | panel
  | centRmt
  | reboot
  | account
  | net
  | update
  | opt
  | eth
  | e1
deriving DecidableEq

/-- `pcCGIName` -/
def Cgi.pcCgiName : Cgi → String
  | .login => "/login.cgi"
  | .panel => "/panel.cgi"
  | .centRmt => "/cent_rmt.cgi"
  | .reboot => "/reboot.cgi"
  | .account => "/account.cgi"
  | .net => "/net.cgi"
  | .update => "/update.cgi"
  | .opt => "/opt.cgi"
  | .eth => "/eth.cgi"
  | .e1 => "/e1.cgi"

/-- `pfnCGIHandler` -/
def Cgi.pfnCgiHandler : Cgi → Handler
  | .login => loginCgiInterface
  | .panel => panelCgiInterface
  | .centRmt => fun _ params => overWeb (centRmtCgiInterface params)
  | .reboot => rebootCgiInterface
  | .account => accountCgiInterface
  | .net => netCgiInterface
  | .update => updateCgiInterface
  | .opt => fun env params => overWeb (optCgiInterface env.codes env.link params)
  | .eth => fun env params => overWeb (ethCgiInterface env.codes env.link params)
  | .e1 => fun env params => overWeb (e1CgiInterface env.codes env.link params)

/-- `ppcURLs` -/
def ppcUrls : List Cgi :=
  [.login, .panel, .centRmt, .reboot, .account, .net, .update, .opt, .eth, .e1]

end UcosProxy.CgiHandlers
