import AnnotationReview.Markup.Token
import AnnotationReview.Review.Run
import AnnotationReview.Session
import AnnotationReview.Proofs.Course
import AnnotationReview.Proofs.Atomicity
import AnnotationReview.Proofs.Run
import AnnotationReview.Proofs.Legality
import AnnotationReview.Proofs.History
import AnnotationReview.Proofs.Resolution
import AnnotationReview.Proofs.Markup.Escape
import AnnotationReview.Proofs.Markup.Token
import AnnotationReview.Proofs.Markup.Annotation
import AnnotationReview.Proofs.Confirmation
import AnnotationReview.Proofs.Submission
import AnnotationReview.Proofs.Gating
import AnnotationReview.Proofs.Viewer
import AnnotationReview.Proofs.Markup.Tag
import AnnotationReview.Proofs.Markup.Identity
import AnnotationReview.Proofs.Panel
import AnnotationReview.Proofs.Offer
import AnnotationReview.Host.Run
import AnnotationReview.Proofs.Registry
import AnnotationReview.Proofs.Confinement
import AnnotationReview.Proofs.Isolation
import AnnotationReview.Proofs.Since
import AnnotationReview.Proofs.Editing
import AnnotationReview.Proofs.Service
import AnnotationReview.Proofs.Readback
import AnnotationReview.Proofs.Failure
import AnnotationReview.Proofs.Custody
import AnnotationReview.Proofs.Provenance
import AnnotationReview.Proofs.Verdict
import AnnotationReview.Proofs.Target
import AnnotationReview.Proofs.Rearrangement
import AnnotationReview.Proofs.Mounting
import AnnotationReview.Proofs.Report
import AnnotationReview.Proofs.Openness
import AnnotationReview.Proofs.Draft
import AnnotationReview.Proofs.Json.Denotation
import AnnotationReview.Proofs.Json.Written
import AnnotationReview.Proofs.Identifier
import AnnotationReview.Proofs.AccessCode
import AnnotationReview.Proofs.Opening
import AnnotationReview.Proofs.Settings
