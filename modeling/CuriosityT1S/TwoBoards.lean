import CuriosityT1S.MainLoop

/-!
# Two boards on the bus

`Net` is a SERVER in its main loop and a CLIENT, with the messages in flight in
both directions.  A message can be delivered at any time, in any order, or be
lost.  `sends` logs the heartbeat sends with their times, failed ones too; each
message carries the number of the send it comes from, an ACK that of the
heartbeat it answers.  The boards see neither.
-/

namespace CuriosityT1S

/-- A heartbeat or an ACK in flight. -/
structure Msg where
  transport : HeartbeatMode
  id : Nat
  bytes : List UInt8
deriving DecidableEq, Repr

structure Net where
  server : MainHb
  clientUdp : UdpHb
  clientEth : EthHb
  toClient : List Msg
  toServer : List Msg
  sends : List (HeartbeatMode × UInt64)
deriving DecidableEq, Repr

/-- The clock, and what lwIP and TC6 answer a board in one step; `accepted` is what
`TC6_SendRawEthernetPacket` does with a frame. -/
structure Env where
  nowUs : UInt64
  lw : LwipAnswer
  tc6 : Bool
  accepted : Bool
deriving DecidableEq, Repr

/-- `tick` is an iteration of the server's loop that sends; the others deliver or lose the
`i`-th message in flight. -/
inductive NetEvent
  | tick (env : Env)
  | toClient (i : Nat) (env : Env)
  | toServer (i : Nat) (env : Env)
  | loseToClient (i : Nat)
  | loseToServer (i : Nat)
deriving DecidableEq, Repr

/-- An RTT sample recorded by the server: the transport and the send its ACK answers, the time,
and the RTT. -/
structure Sample where
  transport : HeartbeatMode
  ackFor : Nat
  nowUs : UInt64
  rttUs : UInt32
deriving DecidableEq, Repr

/-- What a call puts on the bus. -/
def busFrame (env : Env) (txFrame : List UInt8) : HbCall → Option (HeartbeatMode × List UInt8)
  | .udpSendto payload => if env.lw.udpSendto = .errOk then some (.udp, payload) else none
  | .tc6SendRawEthernetPacket _ => if env.accepted then some (.rawEth, txFrame) else none
  | _ => none

/-- The messages of some calls, numbered `id`. -/
def messages (env : Env) (txFrame : List UInt8) (id : Nat) (calls : List HbCall) : List Msg :=
  (calls.filterMap (busFrame env txFrame)).map fun f => ⟨f.1, id, f.2⟩

def clientRecv (n : Net) (m : Msg) (env : Env) : (UdpHb × EthHb) × List HbCall :=
  match m.transport with
  | .udp =>
    let (udp, calls) := heartbeatRecvCb n.clientUdp (some m.bytes) env.nowUs env.lw
    ((udp, n.clientEth), calls)
  | .rawEth =>
    let (eth, calls) := ethHeartbeatRxHandler n.clientEth m.bytes (UInt16.ofNat m.bytes.length)
      env.nowUs env.tc6
    ((n.clientUdp, eth), calls)

def serverRecv (s : MainHb) (m : Msg) (env : Env) : MainHb × List HbCall :=
  match m.transport with
  | .udp =>
    let (udp, calls) := heartbeatRecvCb s.udp (some m.bytes) env.nowUs env.lw
    ({ s with udp := udp }, calls)
  | .rawEth =>
    let (eth, calls) := ethHeartbeatRxHandler s.eth m.bytes (UInt16.ofNat m.bytes.length)
      env.nowUs env.tc6
    ({ s with eth := eth }, calls)

/-- The sample a call reports while `m` is handled. -/
def sampleOf (m : Msg) (nowUs : UInt64) : HbCall → Option Sample
  | .report _ _ rttUs _ => some ⟨m.transport, m.id, nowUs, rttUs⟩
  | _ => none

def netStep (n : Net) : NetEvent → Net × List Sample
  | .tick env =>
    let (server, calls) := mainHeartbeat n.server env.nowUs env.lw env.tc6
    ({ n with
        server := server
        sends := n.sends ++ [(n.server.hbMode, env.nowUs)]
        toClient := n.toClient ++ messages env server.eth.txFrame n.sends.length calls }, [])
  | .toClient i env =>
    match n.toClient[i]? with
    | none => (n, [])
    | some m =>
      let ((udp, eth), calls) := clientRecv n m env
      ({ n with
          clientUdp := udp
          clientEth := eth
          toClient := n.toClient.eraseIdx i
          toServer := n.toServer ++ messages env eth.txFrame m.id calls }, [])
  | .toServer i env =>
    match n.toServer[i]? with
    | none => (n, [])
    | some m =>
      let (server, calls) := serverRecv n.server m env
      ({ n with server := server, toServer := n.toServer.eraseIdx i },
        calls.filterMap (sampleOf m env.nowUs))
  | .loseToClient i => ({ n with toClient := n.toClient.eraseIdx i }, [])
  | .loseToServer i => ({ n with toServer := n.toServer.eraseIdx i }, [])

/-- What the initialisation of one board meets. -/
structure Boot where
  udpNew : Bool
  udpBind : ErrT
  mac : Option (Vector UInt8 6)
deriving DecidableEq, Repr

def netInit (server client : Boot) : Net where
  server := mainHbInit (heartbeatInit .zero .server server.udpNew server.udpBind)
    (ethHeartbeatInit .zero .server server.mac)
  clientUdp := heartbeatInit .zero .client client.udpNew client.udpBind
  clientEth := ethHeartbeatInit .zero .client client.mac
  toClient := []
  toServer := []
  sends := []

end CuriosityT1S
