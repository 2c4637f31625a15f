import RandomSearch.Linear.ProductMix
import RandomSearch.Listed
import RandomSearch.Main
import RandomSearch.Proofs.Fallback
import RandomSearch.Proofs.LinearSearch
import RandomSearch.Proofs.Course
import RandomSearch.Proofs.Crew
import RandomSearch.Proofs.Failures
import RandomSearch.Proofs.Streams
import RandomSearch.Proofs.Undefined
import RandomSearch.Proofs.History
import RandomSearch.Proofs.Requests
import RandomSearch.Proofs.Budget
import RandomSearch.Proofs.Batches
import RandomSearch.Proofs.Box
import RandomSearch.Proofs.Loading
import RandomSearch.Proofs.LinearFailures
import RandomSearch.Proofs.Reading
import RandomSearch.Proofs.Uniform
import RandomSearch.Proofs.Verdicts
import RandomSearch.Proofs.Splitting
import RandomSearch.Proofs.Normalisation
import RandomSearch.Proofs.Display
import RandomSearch.Proofs.Naming
import RandomSearch.Proofs.Description
