import AutoChess.Auth.Sessions
import AutoChess.Runtime.Integrity
import AutoChess.Runtime.BattleBoards
import AutoChess.Runtime.Playback
import AutoChess.Game.Symmetry
import AutoChess.Game.ArrayOrder
import AutoChess.Game.Grammar
import AutoChess.Lib.Pool
import AutoChess.Runtime.Ready
import AutoChess.Runtime.Results
import AutoChess.Runtime.Ledger
import AutoChess.Runtime.Acks
import AutoChess.Lobby.OneMatch
import AutoChess.Lobby.Leaving
import AutoChess.Lobby.Convergence
import AutoChess.Lobby.Membership
import AutoChess.Lobby.Initialised
import AutoChess.Runtime.Score
import AutoChess.Runtime.Order
import AutoChess.Runtime.Scouting
import AutoChess.Runtime.Outlives
import AutoChess.Runtime.Received
import AutoChess.Runtime.Rejected
import AutoChess.Client.Predicts
import AutoChess.Game.Stickiness
import AutoChess.Game.Revives
import AutoChess.Match.Retention
import AutoChess.Common.Throttle
import AutoChess.User.Fresh
import AutoChess.Runtime.Writes
import AutoChess.Ws.Presence
import AutoChess.Client.Delivered
import AutoChess.Client.Replay
import AutoChess.Client.Actions
import AutoChess.Client.Connection
import AutoChess.Client.Marker
import AutoChess.Runtime.Preview
import AutoChess.Match.History
import AutoChess.User.Board
