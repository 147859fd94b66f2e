import Carousel.Main
import Carousel.Proofs.Coincidence
import Carousel.Proofs.Delays
import Carousel.Proofs.Families
import Carousel.Proofs.Fates
import Carousel.Proofs.Histories
import Carousel.Proofs.Interrupts
import Carousel.Proofs.Isolation
import Carousel.Proofs.Names
import Carousel.Proofs.Operations
import Carousel.Proofs.Panics
import Carousel.Proofs.Parsing
import Carousel.Proofs.Plans
import Carousel.Proofs.Poison
import Carousel.Proofs.Racing
import Carousel.Proofs.Reckoning
import Carousel.Proofs.Refusals
import Carousel.Proofs.Registration
import Carousel.Proofs.RoundTrip
import Carousel.Proofs.StoreHistory
import Carousel.Proofs.Turns
import Carousel.Script.Lookup
import Carousel.Stress.Rate
