import Pist.Common.Hex
import Pist.Encoding.Json
import Pist.Common.Hexutil
import Pist.Core.Types.Committee
import Pist.Core.Types.PbftSignJson
import Pist.Core.StorageJson
import Pist.Core.State
import Pist.Core.Genesis
import Pist.Core.GenesisBlock
import Pist.Core.GenesisSetup
import Pist.Consensus.Minerva.SimpleLru
import Pist.Consensus.Minerva.Lru
import Pist.Consensus.Minerva.LruInvariant
import Pist.Consensus.Minerva.LruConstruction
import Pist.Consensus.Minerva.LruRetention
import Pist.Consensus.Minerva.FakeElection
import Pist.Consensus.Minerva.Engine
import Pist.Pist.Metrics
import Pist.Pist.ApiBackend
import Pist.Pist.Backend
import Pist.Pist.Lifecycle
import Pist.Dashboard.Committee
