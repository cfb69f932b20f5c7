import Nexotec.Sales.FrozenContract
import Nexotec.Sales.OfferContracts
import Nexotec.Sales.CustomerFollow
import Nexotec.Customer.MergeLocks
import Nexotec.Customer.PartySessions
import Nexotec.Customer.MergedTerminal
import Nexotec.Confirmation.SignedCars
import Nexotec.Confirmation.Retry
import Nexotec.Confirmation.Cancellation
import Nexotec.Confirmation.Sweep
import Nexotec.Platform.CredentialChange
import Nexotec.Platform.SecondFactor
import Nexotec.Core.OutboxDelivery
import Nexotec.Core.IdempotentRuns
import Nexotec.Vehicle.CatalogueConvergence
import Nexotec.Vehicle.ChangedKeys
import Nexotec.Inventory.ReservationRuns
import Nexotec.Inventory.StockVersions
import Nexotec.Inventory.VinOnce
import Nexotec.Inventory.InvoicingGate
import Nexotec.Vehicle.OneCar
import Nexotec.Inventory.PublishGate
import Nexotec.Integration.VaultAgreement
import Nexotec.Confirmation.SignedValuations
import Nexotec.Vehicle.RetiredIds
import Nexotec.Platform.EntitledTokens
import Nexotec.Platform.UserLifecycle
import Nexotec.Inventory.VatArithmetic
import Nexotec.Sales.Refreeze
import Nexotec.Valuation.Chips
import Nexotec.Inventory.OptionPricing
import Nexotec.Integration.FeedFile
import Nexotec.Core.SortColumns
import Nexotec.Core.CursorDecoding
import Nexotec.Inventory.Ledger
import Nexotec.Inventory.MediaPositions
import Nexotec.Inventory.BackfillRuns
import Nexotec.Customer.PartyPeriods
import Nexotec.Customer.AddressCountries
import Nexotec.Vehicle.PlatePicker
import Nexotec.Vehicle.PlateReads
import Nexotec.Vehicle.PlateCache
import Nexotec.Vehicle.AdvisorEdits
import Nexotec.Platform.CountedAnswers
import Nexotec.Platform.PasswordHistory
import Nexotec.Platform.SessionStrength
import Nexotec.Integration.Breaker
import Nexotec.Core.DailyScheduler
import Nexotec.Core.Uuid7
import Nexotec.Platform.Ed25519
import Nexotec.Core.NulGuard
import Nexotec.Core.Validators
import Nexotec.Platform.DocumentRender
