import Carousel.Main
import Carousel.Settings.File
import Carousel.Session
import Carousel.Rule
import Carousel.Solver
import Carousel.Proofs.Act
import Carousel.Proofs.Choice
import Carousel.Proofs.Run.Question
import Carousel.Proofs.Run.Growth
import Carousel.Proofs.Run.Rotation
import Carousel.Proofs.Run.Phase
import Carousel.Proofs.Lockstep
import Carousel.Proofs.Run.Lockstep
import Carousel.Proofs.Run.Passage
import Carousel.Proofs.Settings
import Carousel.Proofs.Solver
import Carousel.Proofs.Maximize
import Carousel.Proofs.Minimize
import Carousel.Proofs.Ends
import Carousel.Proofs.Run.Upkeep
import Carousel.Proofs.Run.Course
import Carousel.Proofs.Run.Unison
import Carousel.Proofs.Session
import Carousel.Proofs.Ranking
import Carousel.Proofs.Membership
import Carousel.Proofs.Renaming
import Carousel.Proofs.Transcript
import Carousel.Proofs.Run.Script
import Carousel.Proofs.Run.Enactment
import Carousel.Proofs.Sweeps
import Carousel.Proofs.Rounds
import Carousel.Proofs.History
import Carousel.Proofs.Setup
import Carousel.Proofs.Isolation
import Carousel.Proofs.Run.Breakage
import Carousel.Proofs.Failure
import Carousel.Proofs.Coupling
import Carousel.Proofs.Run.Coupling
import Carousel.Proofs.Ties
import Carousel.Proofs.Overrides
import Carousel.Proofs.Constructions
import Carousel.Proofs.Run.Mirror
import Carousel.Proofs.Seeds
import Carousel.Proofs.Saving
import Carousel.Proofs.Best
import Carousel.Proofs.Run.Partway
import Carousel.Proofs.Run.Preference
import Carousel.Proofs.Completion
import Carousel.Proofs.Greedy
import Carousel.Proofs.Window
import Carousel.Proofs.Run.Tally
import Carousel.Proofs.Tally
import Carousel.Proofs.Order
import Carousel.Proofs.Greatest
import Carousel.Proofs.Run.Choice
import Carousel.Proofs.Undefined
import Carousel.Proofs.Trimming
import Carousel.Proofs.Listing
import Carousel.Proofs.Admission
import Carousel.Proofs.Assignments
import Carousel.Proofs.Loading
import Carousel.Proofs.Resolution
import Carousel.Proofs.Graph
import Carousel.Proofs.Run.Reliable
import Carousel.Proofs.Cover
import Carousel.Proofs.VertexCover
