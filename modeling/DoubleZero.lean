import DoubleZero.Lib.Bits
import DoubleZero.Lib.Word
import DoubleZero.Lib.Run
import DoubleZero.Lib.Total
import DoubleZero.Lib.Reorder
import DoubleZero.Lib.Trie
import DoubleZero.Solana.Recipe
import DoubleZero.Revenue.Replay
import DoubleZero.Revenue.Tabled
import DoubleZero.Revenue.Safety.Settlement
import DoubleZero.Revenue.Safety.SolLedger
import DoubleZero.Revenue.Safety.Rent
import DoubleZero.Revenue.Safety.Rewards
import DoubleZero.Revenue.Safety.Pool
import DoubleZero.Revenue.Safety.Solvency
import DoubleZero.Revenue.Safety.WriteOff
import DoubleZero.Revenue.Safety.Integration
import DoubleZero.Revenue.Safety.Stranding
import DoubleZero.Revenue.Safety.Bitmaps
import DoubleZero.Revenue.Safety.BurnRate
import DoubleZero.Revenue.Safety.Lifecycle
import DoubleZero.Revenue.Safety.Deposits
import DoubleZero.Revenue.Safety.Identity
import DoubleZero.Revenue.Safety.Pause
import DoubleZero.Revenue.Safety.Contributors
import DoubleZero.Revenue.Safety.Swap
import DoubleZero.Revenue.Safety.Sweep
import DoubleZero.Revenue.Safety.RewardLeaves
import DoubleZero.Revenue.Safety.RewardSplit
import DoubleZero.Revenue.Safety.Padding
import DoubleZero.Revenue.Safety.Schedule
import DoubleZero.Revenue.Safety.Collection
import DoubleZero.Revenue.Safety.Capacity
import DoubleZero.Revenue.Safety.Migration
import DoubleZero.Revenue.Safety.Packed
import DoubleZero.Revenue.Safety.Governance
import DoubleZero.Revenue.Safety.Inputs
import DoubleZero.Revenue.Safety.Reordering
import DoubleZero.Revenue.Safety.Payments
import DoubleZero.Revenue.Safety.Custody
import DoubleZero.Revenue.Safety.TokenCustody
import DoubleZero.Integration.Buckets
import DoubleZero.Revenue.Image
import DoubleZero.AccountCreation
import DoubleZero.Codecs
import DoubleZero.Revenue.Safety.Images
import DoubleZero.Passport.Deposits
import DoubleZero.Passport.Custody
