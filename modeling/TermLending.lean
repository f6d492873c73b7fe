import TermLending.Text.Name
import TermLending.Wire.Record
import TermLending.Proofs.Wire.Record
import TermLending.Proofs.World.Payments
import TermLending.Proofs.World.Exits
import TermLending.Proofs.World.Authority
import TermLending.Proofs.World.Arithmetic
import TermLending.Proofs.World.Liquidation
import TermLending.Proofs.World.Schedule
import TermLending.Proofs.World.Redemption
import TermLending.Proofs.World.Indifference
import TermLending.Proofs.World.Interchange
import TermLending.Proofs.World.Delay
import TermLending.Proofs.World.Prices
import TermLending.Proofs.World.Supply
import TermLending.Proofs.Arith.Interest
import TermLending.Proofs.World.Margin
import TermLending.Proofs.World.Maturity
import TermLending.Proofs.World.Parts
import TermLending.Proofs.World.Accrual
import TermLending.Proofs.World.Batch
import TermLending.Proofs.World.Reversal
import TermLending.Proofs.World.Dedication
import TermLending.Proofs.World.Minters
import TermLending.Proofs.World.Feeds
import TermLending.Proofs.Arith.Nearest
