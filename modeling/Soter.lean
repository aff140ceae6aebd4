import Soter.Claims.Status
import Soter.Claims.Store
import Soter.Claims.Service
import Soter.Claims.Run
import Soter.Claims.Interleaving
import Soter.Claims.Isolation
import Soter.Wallet.Account
import Soter.Wallet.Service
import Soter.Wallet.Invariant
import Soter.Wallet.Calls
import Soter.Wallet.Schedules
