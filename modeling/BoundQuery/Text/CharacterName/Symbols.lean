/-!
# Names of symbols
-/

namespace BoundQuery.Text.CharacterName

/-- The characters from `U+2000` to `U+33FF`: punctuation, symbols and the scripts of East Asia. -/
def symbols : String := "
  a+2000+EN QUADbM QUADbN SPACEbM SPACEaTHREE-PER-EM SPACEaFOUR-PER-EM SPACEaSIX-PER-EM SPACE
  aFIGURE SPACEaPUNCTUATION SPACEaTHIN SPACEaHAIR SPACEaZERO WIDTH SPACElNON-JOINERlJOINER
  aLEFT-TO-RIGHT MARKaRIGHT-TO-LEFT MARKaHYPHENaNON-BREAKING HYPHENaFIGURE DASHaEN DASHbM DASH
  aHORIZONTAL BARaDOUBLE VERTICAL LINEhLOW LINEaLEFT SINGLE QUOTATION MARK
  aRIGHT SINGLE QUOTATION MARKaSINGLE LOW-9 QUOTATION MARKhHIGH-REVERSED-9 QUOTATION MARK
  aLEFT DOUBLE QUOTATION MARKaRIGHT DOUBLE QUOTATION MARKaDOUBLE LOW-9 QUOTATION MARK
  hHIGH-REVERSED-9 QUOTATION MARKbAGGERbOUBLE DAGGERaBULLETaTRIANGULAR BULLETaONE DOT LEADER
  aTWO DOT LEADERaHORIZONTAL ELLIPSISbYPHENATION POINTaLINE SEPARATORaPARAGRAPH SEPARATOR
  aLEFT-TO-RIGHT EMBEDDINGaRIGHT-TO-LEFT EMBEDDINGaPOP DIRECTIONAL FORMATTINGaLEFT-TO-RIGHT OVERRIDE
  aRIGHT-TO-LEFT OVERRIDEaNARROW NO-BREAK SPACEaPER MILLE SIGNeTEN THOUSAND SIGNbRIMEaDOUBLE PRIME
  aTRIPLE PRIMEaREVERSED PRIMEjDOUBLE PRIMEjTRIPLE PRIMEaCARET
  aSINGLE LEFT-POINTING ANGLE QUOTATION MARKhRIGHT-POINTING ANGLE QUOTATION MARKaREFERENCE MARK
  aDOUBLE EXCLAMATION MARKaINTERROBANGaOVERLINEaUNDERTIEaCHARACTER TIEbARET INSERTION POINTaASTERISM
  aHYPHEN BULLETaFRACTION SLASHaLEFT SQUARE BRACKET WITH QUILLaRIGHT SQUARE BRACKET WITH QUILL
  aDOUBLE QUESTION MARKaQUESTION EXCLAMATION MARKaEXCLAMATION QUESTION MARKaTIRONIAN SIGN ET
  aREVERSED PILCROW SIGNaBLACK LEFTWARDS BULLETgRIGHTWARDS BULLETaLOW ASTERISKaREVERSED SEMICOLON
  aCLOSE UPaTWO ASTERISKS ALIGNED VERTICALLYaCOMMERCIAL MINUS SIGNaSWUNG DASHaINVERTED UNDERTIE
  aFLOWER PUNCTUATION MARKaTHREE DOT PUNCTUATIONaQUADRUPLE PRIMEaFOUR DOT PUNCTUATION
  bIVE DOT PUNCTUATIONaTWO DOT PUNCTUATIONaFOUR DOT MARKaDOTTED CROSSaTRICOLONaVERTICAL FOUR DOTS
  aMEDIUM MATHEMATICAL SPACEaWORD JOINERaFUNCTION APPLICATIONaINVISIBLE TIMESkSEPARATORkPLUS
  a+2+LEFT-TO-RIGHT ISOLATEaRIGHT-TO-LEFT ISOLATEaFIRST STRONG ISOLATEaPOP DIRECTIONAL ISOLATE
  aINHIBIT SYMMETRIC SWAPPINGaACTIVATE SYMMETRIC SWAPPINGaINHIBIT ARABIC FORM SHAPING
  aACTIVATE ARABIC FORM SHAPINGaNATIONAL DIGIT SHAPESbOMINAL DIGIT SHAPESaSUPERSCRIPT ZERO
  mLATIN SMALL LETTER Im+3+FOURnIVEmSIXnEVENmEIGHTmNINEmPLUS SIGNmMINUSmEQUALS SIGNmLEFT PARENTHESIS
  mRIGHT PARENTHESISmLATIN SMALL LETTER NcBSCRIPT ZEROkONEkTWOlHREEkFOURlIVEkSIXlEVENkEIGHTkNINE
  kPLUS SIGNkMINUSkEQUALS SIGNkLEFT PARENTHESISkRIGHT PARENTHESISa+2+LATIN SUBSCRIPT SMALL LETTER A
  bdEbdObdXbdSCHWAbdHbdKbdLbdMbdNbdPbdSbdTa+4+EURO-CURRENCY SIGNaCOLON SIGNbRUZEIRO SIGN
  aFRENCH FRANC SIGNaLIRA SIGNaMILL SIGNaNAIRA SIGNaPESETA SIGNaRUPEE SIGNaWON SIGNaNEW SHEQEL SIGN
  aDONG SIGNaEURO SIGNaKIP SIGNaTUGRIK SIGNaDRACHMA SIGNaGERMAN PENNY SIGNaPESO SIGNaGUARANI SIGN
  aAUSTRAL SIGNaHRYVNIA SIGNaCEDI SIGNaLIVRE TOURNOIS SIGNaSPESMILO SIGNaTENGE SIGN
  aINDIAN RUPEE SIGNaTURKISH LIRA SIGNaNORDIC MARK SIGNaMANAT SIGNaRUBLE SIGNaLARI SIGNaBITCOIN SIGN
  aSOM SIGNa+10+COMBINING LEFT HARPOON ABOVEkRIGHT HARPOON ABOVEkLONG VERTICAL LINE OVERLAY
  kSHORT VERTICAL LINE OVERLAYkANTICLOCKWISE ARROW ABOVEkCLOCKWISE ARROW ABOVEkLEFT ARROW ABOVE
  kRIGHT ARROW ABOVEmNG OVERLAYkCLOCKWISE RING OVERLAYkANTICLOCKWISE RING OVERLAYkTHREE DOTS ABOVE
  kFOUR DOTS ABOVEkENCLOSING CIRCLEuSQUAREuDIAMONDuCIRCLE BACKSLASHkLEFT RIGHT ARROW ABOVE
  kENCLOSING SCREENuKEYCAPuUPWARD POINTING TRIANGLEkREVERSE SOLIDUS OVERLAY
  kDOUBLE VERTICAL STROKE OVERLAYkANNUITY SYMBOLkTRIPLE UNDERDOTkWIDE BRIDGE ABOVE
  kLEFTWARDS ARROW OVERLAYlONG DOUBLE SOLIDUS OVERLAYkRIGHTWARDS HARPOON WITH BARB DOWNWARDS
  kLEFTWARDS HARPOON WITH BARB DOWNWARDSo ARROW BELOWkRIGHT ARROW BELOWkASTERISK ABOVE
  a+10+ACCOUNT OFbDDRESSED TO THE SUBJECTaDOUBLE-STRUCK CAPITAL CbEGREE CELSIUSaCENTRE LINE SYMBOL
  bARE OFcDA UNAaEULER CONSTANTaSCRUPLEaDEGREE FAHRENHEITaSCRIPT SMALL GhCAPITAL H
  aBLACK-LETTER CAPITAL HaDOUBLE-STRUCK CAPITAL HaPLANCK CONSTANTp OVER TWO PIaSCRIPT CAPITAL I
  aBLACK-LETTER CAPITAL IaSCRIPT CAPITAL LhSMALL LaL B BAR SYMBOLaDOUBLE-STRUCK CAPITAL N
  aNUMERO SIGNaSOUND RECORDING COPYRIGHTbCRIPT CAPITAL PaDOUBLE-STRUCK CAPITAL PwQaSCRIPT CAPITAL R
  aBLACK-LETTER CAPITAL RaDOUBLE-STRUCK CAPITAL RaPRESCRIPTION TAKEaRESPONSEaSERVICE MARK
  aTELEPHONE SIGNbRADE MARK SIGNaVERSICLEaDOUBLE-STRUCK CAPITAL ZaOUNCE SIGNbHM SIGN
  aINVERTED OHM SIGNaBLACK-LETTER CAPITAL ZaTURNED GREEK SMALL LETTER IOTAaKELVIN SIGNaANGSTROM SIGN
  aSCRIPT CAPITAL BaBLACK-LETTER CAPITAL CaESTIMATED SYMBOLaSCRIPT SMALL EhCAPITAL EpF
  aTURNED CAPITAL FaSCRIPT CAPITAL MhSMALL OaALEF SYMBOLaBET SYMBOLaGIMEL SYMBOLaDALET SYMBOL
  aINFORMATION SOURCEaROTATED CAPITAL QaFACSIMILE SIGNaDOUBLE-STRUCK SMALL PIuGAMMAoCAPITAL GAMMAwPI
  oN-ARY SUMMATIONaTURNED SANS-SERIF CAPITAL GbaLaREVERSED SANS-SERIF CAPITAL L
  aTURNED SANS-SERIF CAPITAL YaDOUBLE-STRUCK ITALIC CAPITAL DvSMALL DbbEbbIbbJaPROPERTY LINE
  aTURNED AMPERSANDaPER SIGNaAKTIESELSKABaTURNED SMALL FaSYMBOL FOR SAMARITAN SOURCE
  aVULGAR FRACTION ONE SEVENTHuNINTHuTENTHvHIRDqTWO THIRDSqONE FIFTHqTWO FIFTHSrHREE FIFTHS
  qFOUR FIFTHSqONE SIXTHqFIVE SIXTHSqONE EIGHTHqTHREE EIGHTHSqFIVE EIGHTHSqSEVEN EIGHTHS
  aFRACTION NUMERATOR ONEaROMAN NUMERAL ONEoTWOpHREEoFOURpIVEoSIXpEVENoEIGHToNINEoTENoELEVENoTWELVE
  oFIFTYoONE HUNDREDoFIVE HUNDREDoONE THOUSANDaSMALL ROMAN NUMERAL ONEuTWOvHREEuFOURvIVEuSIXvEVEN
  uEIGHTuNINEuTENuELEVENuTWELVEuFIFTYuONE HUNDREDuFIVE HUNDREDuONE THOUSAND
  aROMAN NUMERAL ONE THOUSAND C DoFIVE THOUSANDoTEN THOUSANDoREVERSED ONE HUNDRED
  aLATIN SMALL LETTER REVERSED CaROMAN NUMERAL SIX LATE FORMoFIFTY EARLY FORMuTHOUSAND
  oONE HUNDRED THOUSANDaVULGAR FRACTION ZERO THIRDSaTURNED DIGIT TWOoHREEa+5+LEFTWARDS ARROW
  aUPWARDS ARROWaRIGHTWARDS ARROWaDOWNWARDS ARROWaLEFT RIGHT ARROWaUP DOWN ARROWaNORTH WEST ARROW
  gEAST ARROWaSOUTH EAST ARROWgWEST ARROWaLEFTWARDS ARROW WITH STROKEaRIGHTWARDS ARROW WITH STROKE
  aLEFTWARDS WAVE ARROWaRIGHTWARDS WAVE ARROWaLEFTWARDS TWO HEADED ARROWaUPWARDS TWO HEADED ARROW
  aRIGHTWARDS TWO HEADED ARROWaDOWNWARDS TWO HEADED ARROWaLEFTWARDS ARROW WITH TAIL
  aRIGHTWARDS ARROW WITH TAILaLEFTWARDS ARROW FROM BARaUPWARDS ARROW FROM BAR
  aRIGHTWARDS ARROW FROM BARaDOWNWARDS ARROW FROM BARaUP DOWN ARROW WITH BASE
  aLEFTWARDS ARROW WITH HOOKaRIGHTWARDS ARROW WITH HOOKaLEFTWARDS ARROW WITH LOOP
  aRIGHTWARDS ARROW WITH LOOPaLEFT RIGHT WAVE ARROWlARROW WITH STROKEaDOWNWARDS ZIGZAG ARROW
  aUPWARDS ARROW WITH TIP LEFTWARDSxRIGHTWARDSaDOWNWARDS ARROW WITH TIP LEFTWARDSzRIGHTWARDS
  aRIGHTWARDS ARROW WITH CORNER DOWNWARDSaDOWNWARDS ARROW WITH CORNER LEFTWARDS
  aANTICLOCKWISE TOP SEMICIRCLE ARROWaCLOCKWISE TOP SEMICIRCLE ARROWaNORTH WEST ARROW TO LONG BAR
  aLEFTWARDS ARROW TO BAR OVER RIGHTWARDS ARROW TO BARaANTICLOCKWISE OPEN CIRCLE ARROW
  aCLOCKWISE OPEN CIRCLE ARROWaLEFTWARDS HARPOON WITH BARB UPWARDSbcDOWNWARDS
  aUPWARDS HARPOON WITH BARB RIGHTWARDSbaLEFTWARDSaRIGHTWARDS HARPOON WITH BARB UPWARDSbdDOWNWARDS
  aDOWNWARDS HARPOON WITH BARB RIGHTWARDSbcLEFTWARDSaRIGHTWARDS ARROW OVER LEFTWARDS ARROW
  aUPWARDS ARROW LEFTWARDS OF DOWNWARDS ARROWaLEFTWARDS ARROW OVER RIGHTWARDS ARROWkPAIRED ARROWS
  aUPWARDS PAIRED ARROWSaRIGHTWARDS PAIRED ARROWSaDOWNWARDS PAIRED ARROWS
  aLEFTWARDS HARPOON OVER RIGHTWARDS HARPOONaRIGHTWARDS HARPOON OVER LEFTWARDS HARPOON
  aLEFTWARDS DOUBLE ARROW WITH STROKEe RIGHT DOUBLE ARROW WITH STROKE
  aRIGHTWARDS DOUBLE ARROW WITH STROKEaLEFTWARDS DOUBLE ARROWaUPWARDS DOUBLE ARROW
  aRIGHTWARDS DOUBLE ARROWaDOWNWARDS DOUBLE ARROWaLEFT RIGHT DOUBLE ARROWaUP DOWN DOUBLE ARROW
  aNORTH WEST DOUBLE ARROWgEAST DOUBLE ARROWaSOUTH EAST DOUBLE ARROWgWEST DOUBLE ARROW
  aLEFTWARDS TRIPLE ARROWaRIGHTWARDS TRIPLE ARROWaLEFTWARDS SQUIGGLE ARROWaRIGHTWARDS SQUIGGLE ARROW
  aUPWARDS ARROW WITH DOUBLE STROKEaDOWNWARDS ARROW WITH DOUBLE STROKEaLEFTWARDS DASHED ARROW
  aUPWARDS DASHED ARROWaRIGHTWARDS DASHED ARROWaDOWNWARDS DASHED ARROWaLEFTWARDS ARROW TO BAR
  aRIGHTWARDS ARROW TO BARaLEFTWARDS WHITE ARROWaUPWARDS WHITE ARROWaRIGHTWARDS WHITE ARROW
  aDOWNWARDS WHITE ARROWaUPWARDS WHITE ARROW FROM BARuON PEDESTALbf WITH HORIZONTAL BAR
  blVERTICAL BARoDOUBLE ARROWba ON PEDESTALaRIGHTWARDS WHITE ARROW FROM WALL
  aNORTH WEST ARROW TO CORNERaSOUTH EAST ARROW TO CORNERaUP DOWN WHITE ARROW
  aRIGHT ARROW WITH SMALL CIRCLEaDOWNWARDS ARROW LEFTWARDS OF UPWARDS ARROWaTHREE RIGHTWARDS ARROWS
  aLEFTWARDS ARROW WITH VERTICAL STROKEaRIGHTWARDS ARROW WITH VERTICAL STROKE
  aLEFT RIGHT ARROW WITH VERTICAL STROKEeWARDS ARROW WITH DOUBLE VERTICAL STROKE
  aRIGHTWARDS ARROW WITH DOUBLE VERTICAL STROKEaLEFT RIGHT ARROW WITH DOUBLE VERTICAL STROKE
  eWARDS OPEN-HEADED ARROWaRIGHTWARDS OPEN-HEADED ARROWaLEFT RIGHT OPEN-HEADED ARROWaFOR ALL
  aCOMPLEMENTaPARTIAL DIFFERENTIALaTHERE EXISTSgDOES NOT EXISTaEMPTY SETaINCREMENTaNABLAaELEMENT OF
  aNOT AN ELEMENT OFaSMALL ELEMENT OFaCONTAINS AS MEMBERaDOES NOT CONTAIN AS MEMBER
  aSMALL CONTAINS AS MEMBERaEND OF PROOFaN-ARY PRODUCTgCOPRODUCTgSUMMATIONaMINUS SIGNf-OR-PLUS SIGN
  aDOT PLUSbIVISION SLASHaSET MINUSaASTERISK OPERATORaRING OPERATORaBULLET OPERATORaSQUARE ROOT
  aCUBE ROOTaFOURTH ROOTaPROPORTIONAL TOaINFINITYaRIGHT ANGLEaANGLEaMEASURED ANGLEaSPHERICAL ANGLE
  aDIVIDESbOES NOT DIVIDEaPARALLEL TOaNOT PARALLEL TOaLOGICAL ANDiORaINTERSECTIONaUNIONaINTEGRAL
  aDOUBLE INTEGRALaTRIPLE INTEGRALaCONTOUR INTEGRALaSURFACE INTEGRALaVOLUME INTEGRAL
  aCLOCKWISE INTEGRALkCONTOUR INTEGRALaANTICLOCKWISE CONTOUR INTEGRALaTHEREFOREaBECAUSEaRATIO
  aPROPORTIONaDOT MINUSaEXCESSaGEOMETRIC PROPORTIONaHOMOTHETICaTILDE OPERATORaREVERSED TILDE
  aINVERTED LAZY SaSINE WAVEaWREATH PRODUCTaNOT TILDEaMINUS TILDEaASYMPTOTICALLY EQUAL TO
  aNOT ASYMPTOTICALLY EQUAL TOaAPPROXIMATELY EQUAL TOoBUT NOT ACTUALLY EQUAL TO
  aNEITHER APPROXIMATELY NOR ACTUALLY EQUAL TOaALMOST EQUAL TOaNOT ALMOST EQUAL TO
  aALMOST EQUAL OR EQUAL TOaTRIPLE TILDEaALL EQUAL TOaEQUIVALENT TOaGEOMETRICALLY EQUIVALENT TO
  aDIFFERENCE BETWEENaAPPROACHES THE LIMITaGEOMETRICALLY EQUAL TO
  aAPPROXIMATELY EQUAL TO OR THE IMAGE OFaIMAGE OF OR APPROXIMATELY EQUAL TOaCOLON EQUALS
  aEQUALS COLONaRING IN EQUAL TOfEQUAL TOaCORRESPONDS TOaESTIMATESbQUIANGULAR TOaSTAR EQUALS
  aDELTA EQUAL TOaEQUAL TO BY DEFINITIONaMEASURED BYaQUESTIONED EQUAL TOaNOT EQUAL TOaIDENTICAL TO
  aNOT IDENTICAL TOaSTRICTLY EQUIVALENT TOaLESS-THAN OR EQUAL TOaGREATER-THAN OR EQUAL TO
  aLESS-THAN OVER EQUAL TOaGREATER-THAN OVER EQUAL TOaLESS-THAN BUT NOT EQUAL TO
  aGREATER-THAN BUT NOT EQUAL TOaMUCH LESS-THANfGREATER-THANaBETWEENaNOT EQUIVALENT TOeLESS-THAN
  eGREATER-THANbEITHER LESS-THAN NOR EQUAL TOiGREATER-THAN NOR EQUAL TOaLESS-THAN OR EQUIVALENT TO
  aGREATER-THAN OR EQUIVALENT TOaNEITHER LESS-THAN NOR EQUIVALENT TOiGREATER-THAN NOR EQUIVALENT TO
  aLESS-THAN OR GREATER-THANaGREATER-THAN OR LESS-THANaNEITHER LESS-THAN NOR GREATER-THAN
  iGREATER-THAN NOR LESS-THANaPRECEDESaSUCCEEDSaPRECEDES OR EQUAL TOaSUCCEEDS OR EQUAL TO
  aPRECEDES OR EQUIVALENT TOaSUCCEEDS OR EQUIVALENT TOaDOES NOT PRECEDEjSUCCEEDaSUBSET OFcPERSET OF
  aNOT A SUBSET OFiPERSET OFaSUBSET OF OR EQUAL TOcPERSET OF OR EQUAL TO
  aNEITHER A SUBSET OF NOR EQUAL TOmPERSET OF NOR EQUAL TOaSUBSET OF WITH NOT EQUAL TO
  cPERSET OF WITH NOT EQUAL TOaMULTISETi MULTIPLICATIONjUNIONaSQUARE IMAGE OFhORIGINAL OF
  hIMAGE OF OR EQUAL TOhORIGINAL OF OR EQUAL TOhCAPiUPaCIRCLED PLUSiMINUSiTIMESiDIVISION SLASH
  jOT OPERATORiRING OPERATORiASTERISK OPERATORiEQUALSiDASHaSQUARED PLUSiMINUSiTIMESiDOT OPERATOR
  aRIGHT TACKaLEFT TACKaDOWN TACKaUP TACKaASSERTIONaMODELSaTRUEaFORCES
  aTRIPLE VERTICAL BAR RIGHT TURNSTILEaDOUBLE VERTICAL BAR DOUBLE RIGHT TURNSTILEcES NOT PROVE
  aNOT TRUEaDOES NOT FORCEaNEGATED DOUBLE VERTICAL BAR DOUBLE RIGHT TURNSTILE
  aPRECEDES UNDER RELATIONaSUCCEEDS UNDER RELATIONaNORMAL SUBGROUP OFaCONTAINS AS NORMAL SUBGROUP
  aNORMAL SUBGROUP OF OR EQUAL TOaCONTAINS AS NORMAL SUBGROUP OR EQUAL TOaORIGINAL OFaIMAGE OF
  aMULTIMAPaHERMITIAN CONJUGATE MATRIXaINTERCALATEaXORaNANDbORaRIGHT ANGLE WITH ARCgTRIANGLE
  aN-ARY LOGICAL ANDoORgINTERSECTIONgUNIONaDIAMOND OPERATORbOT OPERATORaSTAR OPERATORaDIVISION TIMES
  aBOWTIEaLEFT NORMAL FACTOR SEMIDIRECT PRODUCTaRIGHT NORMAL FACTOR SEMIDIRECT PRODUCT
  aLEFT SEMIDIRECT PRODUCTaRIGHT SEMIDIRECT PRODUCTbEVERSED TILDE EQUALSaCURLY LOGICAL ORoAND
  aDOUBLE SUBSETjPERSEThINTERSECTIONhUNIONaPITCHFORKaEQUAL AND PARALLEL TOaLESS-THAN WITH DOT
  aGREATER-THAN WITH DOTaVERY MUCH LESS-THANkGREATER-THANaLESS-THAN EQUAL TO OR GREATER-THAN
  aGREATER-THAN EQUAL TO OR LESS-THANaEQUAL TO OR LESS-THANmGREATER-THANmPRECEDESmSUCCEEDS
  aDOES NOT PRECEDE OR EQUALjSUCCEED OR EQUALaNOT SQUARE IMAGE OF OR EQUAL TO
  lORIGINAL OF OR EQUAL TOaSQUARE IMAGE OF OR NOT EQUAL TOhORIGINAL OF OR NOT EQUAL TO
  aLESS-THAN BUT NOT EQUIVALENT TOaGREATER-THAN BUT NOT EQUIVALENT TOaPRECEDES BUT NOT EQUIVALENT TO
  aSUCCEEDS BUT NOT EQUIVALENT TOaNOT NORMAL SUBGROUP OFaDOES NOT CONTAIN AS NORMAL SUBGROUP
  aNOT NORMAL SUBGROUP OF OR EQUAL TOaDOES NOT CONTAIN AS NORMAL SUBGROUP OR EQUALaVERTICAL ELLIPSIS
  aMIDLINE HORIZONTAL ELLIPSISaUP RIGHT DIAGONAL ELLIPSISaDOWN RIGHT DIAGONAL ELLIPSIS
  aELEMENT OF WITH LONG HORIZONTAL STROKEqVERTICAL BAR AT END OF HORIZONTAL STROKE
  aSMALL ELEMENT OF WITH VERTICAL BAR AT END OF HORIZONTAL STROKEaELEMENT OF WITH DOT ABOVEqOVERBAR
  aSMALL ELEMENT OF WITH OVERBARaELEMENT OF WITH UNDERBARqTWO HORIZONTAL STROKES
  aCONTAINS WITH LONG HORIZONTAL STROKEoVERTICAL BAR AT END OF HORIZONTAL STROKE
  aSMALL CONTAINS WITH VERTICAL BAR AT END OF HORIZONTAL STROKEaCONTAINS WITH OVERBAR
  aSMALL CONTAINS WITH OVERBARaZ NOTATION BAG MEMBERSHIPaDIAMETER SIGNaELECTRIC ARROWaHOUSE
  aUP ARROWHEADaDOWN ARROWHEADaPROJECTIVEbERSPECTIVEaWAVY LINEaLEFT CEILINGaRIGHT CEILINGaLEFT FLOOR
  aRIGHT FLOORaBOTTOM RIGHT CROPhLEFT CROPaTOP RIGHT CROPeLEFT CROPaREVERSED NOT SIGNaSQUARE LOZENGE
  aARCaSEGMENTcCTORaTELEPHONE RECORDERaPOSITION INDICATORaVIEWDATA SQUAREaPLACE OF INTEREST SIGN
  aTURNED NOT SIGNaWATCHaHOURGLASSaTOP LEFT CORNEReRIGHT CORNERaBOTTOM LEFT CORNERhRIGHT CORNER
  aTOP HALF INTEGRALaBOTTOM HALF INTEGRALaFROWNaSMILEaUP ARROWHEAD BETWEEN TWO HORIZONTAL BARS
  aOPTION KEYaERASE TO THE RIGHTaX IN A RECTANGLE BOXaKEYBOARDaLEFT-POINTING ANGLE BRACKET
  aRIGHT-POINTING ANGLE BRACKETaERASE TO THE LEFTaBENZENE RINGaCYLINDRICITYaALL AROUND-PROFILE
  aSYMMETRYaTOTAL RUNOUTaDIMENSION ORIGINaCONICAL TAPERaSLOPEaCOUNTERBOREhSINK
  aAPL FUNCTIONAL SYMBOL I-BEAMwSQUISH QUADwQUAD EQUALbbDIVIDEbdAMONDbbJOTbbCIRCLEwCIRCLE STILEbdJOT
  wSLASH BARwBACKSLASH BARwQUAD SLASHbbBACKSLASHbbLESS-THANbbGREATER-THANwLEFTWARDS VANE
  wRIGHTWARDS VANEwQUAD LEFTWARDS ARROWbbRIGHTWARDS ARROWwCIRCLE BACKSLASHwDOWN TACK UNDERBAR
  xELTA STILEwQUAD DOWN CARETbcELTAwDOWN TACK JOTwUPWARDS VANEwQUAD UPWARDS ARROWwUP TACK OVERBAR
  wDEL STILEwQUAD UP CARETbbDELwUP TACK JOTwDOWNWARDS VANEwQUAD DOWNWARDS ARROWyOTE UNDERBAR
  wDELTA UNDERBARxIAMOND UNDERBARwJOT UNDERBARwCIRCLE UNDERBARwUP SHOE JOTwQUOTE QUADwCIRCLE STAR
  wQUAD COLONwUP TACK DIAERESISwDEL DIAERESISwSTAR DIAERESISwJOT DIAERESISwCIRCLE DIAERESIS
  wDOWN SHOE STILEwLEFT SHOE STILEwTILDE DIAERESISwGREATER-THAN DIAERESISwCOMMA BARwDEL TILDEwZILDE
  wSTILE TILDExEMICOLON UNDERBARwQUAD NOT EQUALbbQUESTIONwDOWN CARET TILDEwUP CARET TILDEwIOTAwRHO
  wOMEGAwALPHA UNDERBARwEPSILON UNDERBARwIOTA UNDERBARwOMEGA UNDERBARwALPHAaNOT CHECK MARK
  aRIGHT ANGLE WITH DOWNWARDS ZIGZAG ARROWaSHOULDERED OPEN BOXaBELL SYMBOL
  aVERTICAL LINE WITH MIDDLE DOTaINSERTION SYMBOLaCONTINUOUS UNDERLINE SYMBOL
  aDISCONTINUOUS UNDERLINE SYMBOLaEMPHASIS SYMBOLaCOMPOSITION SYMBOL
  aWHITE SQUARE WITH CENTRE VERTICAL LINEaENTER SYMBOLaALTERNATIVE KEY SYMBOLaHELM SYMBOL
  aCIRCLED HORIZONTAL BAR WITH NOTCHiTRIANGLE DOWNaBROKEN CIRCLE WITH NORTHWEST ARROWaUNDO SYMBOL
  aMONOSTABLE SYMBOLaHYSTERESIS SYMBOLaOPEN-CIRCUIT-OUTPUT H-TYPE SYMBOLuL-TYPE SYMBOL
  aPASSIVE-PULL-DOWN-OUTPUT SYMBOLnUP-OUTPUT SYMBOLaDIRECT CURRENT SYMBOL FORM TWO
  aSOFTWARE-FUNCTION SYMBOLaAPL FUNCTIONAL SYMBOL QUADaDECIMAL SEPARATOR KEY SYMBOLaPREVIOUS PAGE
  aNEXT PAGEaPRINT SCREEN SYMBOLaCLEAR SCREEN SYMBOLaLEFT PARENTHESIS UPPER HOOKrEXTENSION
  rLOWER HOOKaRIGHT PARENTHESIS UPPER HOOKsEXTENSIONsLOWER HOOKaLEFT SQUARE BRACKET UPPER CORNER
  uEXTENSIONuLOWER CORNERaRIGHT SQUARE BRACKET UPPER CORNERvEXTENSIONvLOWER CORNER
  aLEFT CURLY BRACKET UPPER HOOKtMIDDLE PIECEtLOWER HOOKaCURLY BRACKET EXTENSION
  aRIGHT CURLY BRACKET UPPER HOOKuMIDDLE PIECEuLOWER HOOKaINTEGRAL EXTENSION
  aHORIZONTAL LINE EXTENSIONaUPPER LEFT OR LOWER RIGHT CURLY BRACKET SECTION
  gRIGHT OR LOWER LEFT CURLY BRACKET SECTIONaSUMMATION TOPkBOTTOMaTOP SQUARE BRACKET
  aBOTTOM SQUARE BRACKETv OVER TOP SQUARE BRACKETaRADICAL SYMBOL BOTTOMaLEFT VERTICAL BOX LINE
  aRIGHT VERTICAL BOX LINEaHORIZONTAL SCAN LINE-1v3v7v9
  aDENTISTRY SYMBOL LIGHT VERTICAL AND TOP RIGHTbkBOTTOM RIGHTbgWITH CIRCLE
  xDOWN AND HORIZONTAL WITH CIRCLExUP AND HORIZONTAL WITH CIRCLExVERTICAL WITH TRIANGLE
  xDOWN AND HORIZONTAL WITH TRIANGLExUP AND HORIZONTAL WITH TRIANGLExVERTICAL AND WAVE
  xDOWN AND HORIZONTAL WITH WAVExUP AND HORIZONTAL WITH WAVExDOWN AND HORIZONTALxUP AND HORIZONTAL
  xVERTICAL AND TOP LEFTbkBOTTOM LEFTaSQUARE FOOTaRETURN SYMBOLaEJECT SYMBOLaVERTICAL LINE EXTENSION
  aMETRICAL BREVEjLONG OVER SHORTjSHORT OVER LONGjLONG OVER TWO SHORTSjTWO SHORTS OVER LONGuJOINED
  kRISEMEkETRASEMEjPENTASEMEaEARTH GROUNDaFUSEaTOP PARENTHESISaBOTTOM PARENTHESISaTOP CURLY BRACKET
  aBOTTOM CURLY BRACKETaTOP TORTOISE SHELL BRACKETaBOTTOM TORTOISE SHELL BRACKETaWHITE TRAPEZIUM
  aBENZENE RING WITH CIRCLEaSTRAIGHTNESSaFLATNESSaAC CURRENTaELECTRICAL INTERSECTION
  aDECIMAL EXPONENT SYMBOLaBLACK RIGHT-POINTING DOUBLE TRIANGLEgLEFT-POINTING DOUBLE TRIANGLE
  gUP-POINTING DOUBLE TRIANGLEgDOWN-POINTING DOUBLE TRIANGLE
  gRIGHT-POINTING DOUBLE TRIANGLE WITH VERTICAL BARgLEFT-POINTING DOUBLE TRIANGLE WITH VERTICAL BAR
  gRIGHT-POINTING TRIANGLE WITH DOUBLE VERTICAL BARaALARM CLOCKaSTOPWATCHaTIMER CLOCK
  aHOURGLASS WITH FLOWING SANDaBLACK MEDIUM LEFT-POINTING TRIANGLEnRIGHT-POINTING TRIANGLE
  nUP-POINTING TRIANGLEnDOWN-POINTING TRIANGLEaDOUBLE VERTICAL BARaBLACK SQUARE FOR STOP
  gCIRCLE FOR RECORDaPOWER SYMBOLgON-OFF SYMBOLi SYMBOLgSLEEP SYMBOLaOBSERVER EYE SYMBOL
  aSYMBOL FOR NULLlSTART OF HEADINGuTEXTlEND OF TEXTtRANSMISSIONnQUIRYlACKNOWLEDGElBELLmACKSPACE
  lHORIZONTAL TABULATIONlLINE FEEDlVERTICAL TABULATIONlFORM FEEDlCARRIAGE RETURNlSHIFT OUTrIN
  lDATA LINK ESCAPEmEVICE CONTROL ONEbaTWObbHREEbaFOURlNEGATIVE ACKNOWLEDGElSYNCHRONOUS IDLE
  lEND OF TRANSMISSION BLOCKlCANCELlEND OF MEDIUMlSUBSTITUTElESCAPElFILE SEPARATORlGROUP SEPARATOR
  lRECORD SEPARATORlUNIT SEPARATORlSPACElDELETEaBLANK SYMBOLaOPEN BOXaSYMBOL FOR NEWLINE
  lDELETE FORM TWOlSUBSTITUTE FORM TWOa+1a+OCR HOOKeCHAIReFORKeINVERTED FORKeBELT BUCKLEfOW TIE
  fRANCH BANK IDENTIFICATIONeAMOUNT OF CHECKeDASHeCUSTOMER ACCOUNT NUMBEReDOUBLE BACKSLASH
  a+16+CIRCLED DIGIT ONEoTWOpHREEoFOURpIVEoSIXpEVENoEIGHToNINEiNUMBER TENpELEVENpTWELVEqHIRTEEN
  pFOURTEENqIFTEENpSIXTEENqEVENTEENpEIGHTEENpNINETEENpTWENTYaPARENTHESIZED DIGIT ONEuTWOvHREEuFOUR
  vIVEuSIXvEVENuEIGHTuNINEoNUMBER TENvELEVENvTWELVEwHIRTEENvFOURTEENwIFTEENvSIXTEENwEVENTEEN
  vEIGHTEENvNINETEENvTWENTYaDIGIT ONE FULL STOPgTWO FULL STOPhHREE FULL STOPgFOUR FULL STOP
  hIVE FULL STOPgSIX FULL STOPhEVEN FULL STOPgEIGHT FULL STOPgNINE FULL STOPaNUMBER TEN FULL STOP
  hELEVEN FULL STOPhTWELVE FULL STOPiHIRTEEN FULL STOPhFOURTEEN FULL STOPiIFTEEN FULL STOP
  hSIXTEEN FULL STOPiEVENTEEN FULL STOPhEIGHTEEN FULL STOPhNINETEEN FULL STOPhTWENTY FULL STOP
  aPARENTHESIZED LATIN SMALL LETTER AbhBbhCbhDbhEbhFbhGbhHbhIbhJbhKbhLbhMbhNbhObhPbhQbhRbhSbhTbhUbhV
  bhWbhXbhYbhZaCIRCLED LATIN CAPITAL LETTER AbdBbdCbdDbdEbdFbdGbdHbdIbdJbdKbdLbdMbdNbdObdPbdQbdRbdS
  bdTbdUbdVbdWbdXbdYbdZoSMALL LETTER AbbBbbCbbDbbEbbFbbGbbHbbIbbJbbKbbLbbMbbNbbObbPbbQbbRbbSbbTbbU
  bbVbbWbbXbbYbbZiDIGIT ZEROaNEGATIVE CIRCLED NUMBER ELEVENyTWELVEzHIRTEENyFOURTEENzIFTEENySIXTEEN
  zEVENTEENyEIGHTEENyNINETEENyTWENTYaDOUBLE CIRCLED DIGIT ONEvTWOwHREEvFOURwIVEvSIXwEVENvEIGHTvNINE
  pNUMBER TENaNEGATIVE CIRCLED DIGIT ZEROaBOX DRAWINGS LIGHT HORIZONTALnHEAVY HORIZONTAL
  nLIGHT VERTICALnHEAVY VERTICALnLIGHT TRIPLE DASH HORIZONTALnHEAVY TRIPLE DASH HORIZONTAL
  nLIGHT TRIPLE DASH VERTICALnHEAVY TRIPLE DASH VERTICALnLIGHT QUADRUPLE DASH HORIZONTAL
  nHEAVY QUADRUPLE DASH HORIZONTALnLIGHT QUADRUPLE DASH VERTICALnHEAVY QUADRUPLE DASH VERTICAL
  nLIGHT DOWN AND RIGHTnDOWN LIGHT AND RIGHT HEAVYsHEAVY AND RIGHT LIGHTnHEAVY DOWN AND RIGHT
  nLIGHT DOWN AND LEFTnDOWN LIGHT AND LEFT HEAVYsHEAVY AND LEFT LIGHTnHEAVY DOWN AND LEFT
  nLIGHT UP AND RIGHTnUP LIGHT AND RIGHT HEAVYqHEAVY AND RIGHT LIGHTnHEAVY UP AND RIGHT
  nLIGHT UP AND LEFTnUP LIGHT AND LEFT HEAVYqHEAVY AND LEFT LIGHTnHEAVY UP AND LEFT
  nLIGHT VERTICAL AND RIGHTnVERTICAL LIGHT AND RIGHT HEAVYnUP HEAVY AND RIGHT DOWN LIGHT
  nDOWN HEAVY AND RIGHT UP LIGHTnVERTICAL HEAVY AND RIGHT LIGHTnDOWN LIGHT AND RIGHT UP HEAVY
  nUP LIGHT AND RIGHT DOWN HEAVYnHEAVY VERTICAL AND RIGHTnLIGHT VERTICAL AND LEFT
  nVERTICAL LIGHT AND LEFT HEAVYnUP HEAVY AND LEFT DOWN LIGHTnDOWN HEAVY AND LEFT UP LIGHT
  nVERTICAL HEAVY AND LEFT LIGHTnDOWN LIGHT AND LEFT UP HEAVYnUP LIGHT AND LEFT DOWN HEAVY
  nHEAVY VERTICAL AND LEFTnLIGHT DOWN AND HORIZONTALoEFT HEAVY AND RIGHT DOWN LIGHT
  nRIGHT HEAVY AND LEFT DOWN LIGHTnDOWN LIGHT AND HORIZONTAL HEAVYsHEAVY AND HORIZONTAL LIGHT
  nRIGHT LIGHT AND LEFT DOWN HEAVYnLEFT LIGHT AND RIGHT DOWN HEAVYnHEAVY DOWN AND HORIZONTAL
  nLIGHT UP AND HORIZONTALoEFT HEAVY AND RIGHT UP LIGHTnRIGHT HEAVY AND LEFT UP LIGHT
  nUP LIGHT AND HORIZONTAL HEAVYqHEAVY AND HORIZONTAL LIGHTnRIGHT LIGHT AND LEFT UP HEAVY
  nLEFT LIGHT AND RIGHT UP HEAVYnHEAVY UP AND HORIZONTALnLIGHT VERTICAL AND HORIZONTAL
  oEFT HEAVY AND RIGHT VERTICAL LIGHTnRIGHT HEAVY AND LEFT VERTICAL LIGHT
  nVERTICAL LIGHT AND HORIZONTAL HEAVYnUP HEAVY AND DOWN HORIZONTAL LIGHT
  nDOWN HEAVY AND UP HORIZONTAL LIGHTnVERTICAL HEAVY AND HORIZONTAL LIGHT
  nLEFT UP HEAVY AND RIGHT DOWN LIGHTnRIGHT UP HEAVY AND LEFT DOWN LIGHT
  nLEFT DOWN HEAVY AND RIGHT UP LIGHTnRIGHT DOWN HEAVY AND LEFT UP LIGHT
  nDOWN LIGHT AND UP HORIZONTAL HEAVYnUP LIGHT AND DOWN HORIZONTAL HEAVY
  nRIGHT LIGHT AND LEFT VERTICAL HEAVYnLEFT LIGHT AND RIGHT VERTICAL HEAVY
  nHEAVY VERTICAL AND HORIZONTALnLIGHT DOUBLE DASH HORIZONTALnHEAVY DOUBLE DASH HORIZONTAL
  nLIGHT DOUBLE DASH VERTICALnHEAVY DOUBLE DASH VERTICALnDOUBLE HORIZONTALuVERTICAL
  pWN SINGLE AND RIGHT DOUBLEsDOUBLE AND RIGHT SINGLEpUBLE DOWN AND RIGHTpWN SINGLE AND LEFT DOUBLE
  sDOUBLE AND LEFT SINGLEpUBLE DOWN AND LEFTnUP SINGLE AND RIGHT DOUBLEqDOUBLE AND RIGHT SINGLE
  nDOUBLE UP AND RIGHTnUP SINGLE AND LEFT DOUBLEqDOUBLE AND LEFT SINGLEnDOUBLE UP AND LEFT
  nVERTICAL SINGLE AND RIGHT DOUBLEwDOUBLE AND RIGHT SINGLEnDOUBLE VERTICAL AND RIGHT
  nVERTICAL SINGLE AND LEFT DOUBLEwDOUBLE AND LEFT SINGLEnDOUBLE VERTICAL AND LEFT
  pWN SINGLE AND HORIZONTAL DOUBLEsDOUBLE AND HORIZONTAL SINGLEpUBLE DOWN AND HORIZONTAL
  nUP SINGLE AND HORIZONTAL DOUBLEqDOUBLE AND HORIZONTAL SINGLEnDOUBLE UP AND HORIZONTAL
  nVERTICAL SINGLE AND HORIZONTAL DOUBLEwDOUBLE AND HORIZONTAL SINGLEnDOUBLE VERTICAL AND HORIZONTAL
  nLIGHT ARC DOWN AND RIGHTbgLEFTxUP AND LEFTbeRIGHTtDIAGONAL UPPER RIGHT TO LOWER LEFT
  biLEFT TO LOWER RIGHTbcCROSStLEFTtUPtRIGHTtDOWNnHEAVY LEFTtUPtRIGHTtDOWN
  nLIGHT LEFT AND HEAVY RIGHTtUP AND HEAVY DOWNnHEAVY LEFT AND LIGHT RIGHTtUP AND LIGHT DOWN
  aUPPER HALF BLOCKaLOWER ONE EIGHTH BLOCKkQUARTER BLOCKgTHREE EIGHTHS BLOCKgHALF BLOCK
  gFIVE EIGHTHS BLOCKgTHREE QUARTERS BLOCKgSEVEN EIGHTHS BLOCKaFULL BLOCKaLEFT SEVEN EIGHTHS BLOCK
  fTHREE QUARTERS BLOCKfFIVE EIGHTHS BLOCKfHALF BLOCKfTHREE EIGHTHS BLOCKfONE QUARTER BLOCK
  jEIGHTH BLOCKaRIGHT HALF BLOCKaLIGHT SHADEaMEDIUM SHADEaDARK SHADEaUPPER ONE EIGHTH BLOCK
  aRIGHT ONE EIGHTH BLOCKaQUADRANT LOWER LEFTpRIGHTjUPPER LEFTt AND LOWER LEFT AND LOWER RIGHT
  beRIGHTyUPPER RIGHT AND LOWER LEFTbuRIGHTpRIGHTu AND LOWER LEFTbj AND LOWER RIGHTaBLACK SQUARE
  aWHITE SQUAREm WITH ROUNDED CORNERSnCONTAINING BLACK SMALL SQUAREaSQUARE WITH HORIZONTAL FILL
  mVERTICAL FILLmORTHOGONAL CROSSHATCH FILLmUPPER LEFT TO LOWER RIGHT FILLsRIGHT TO LOWER LEFT FILL
  mDIAGONAL CROSSHATCH FILLaBLACK SMALL SQUAREaWHITE SMALL SQUAREaBLACK RECTANGLEaWHITE RECTANGLE
  aBLACK VERTICAL RECTANGLEaWHITE VERTICAL RECTANGLEaBLACK PARALLELOGRAMaWHITE PARALLELOGRAM
  aBLACK UP-POINTING TRIANGLEaWHITE UP-POINTING TRIANGLEaBLACK UP-POINTING SMALL TRIANGLE
  aWHITE UP-POINTING SMALL TRIANGLEaBLACK RIGHT-POINTING TRIANGLEaWHITE RIGHT-POINTING TRIANGLE
  aBLACK RIGHT-POINTING SMALL TRIANGLEaWHITE RIGHT-POINTING SMALL TRIANGLE
  aBLACK RIGHT-POINTING POINTERaWHITE RIGHT-POINTING POINTERaBLACK DOWN-POINTING TRIANGLE
  aWHITE DOWN-POINTING TRIANGLEaBLACK DOWN-POINTING SMALL TRIANGLE
  aWHITE DOWN-POINTING SMALL TRIANGLEaBLACK LEFT-POINTING TRIANGLEaWHITE LEFT-POINTING TRIANGLE
  aBLACK LEFT-POINTING SMALL TRIANGLEaWHITE LEFT-POINTING SMALL TRIANGLEaBLACK LEFT-POINTING POINTER
  aWHITE LEFT-POINTING POINTERaBLACK DIAMONDaWHITE DIAMONDn CONTAINING BLACK SMALL DIAMONDaFISHEYE
  aLOZENGEaWHITE CIRCLEaDOTTED CIRCLEaCIRCLE WITH VERTICAL FILLaBULLSEYEbLACK CIRCLE
  aCIRCLE WITH LEFT HALF BLACKmRIGHT HALF BLACKmLOWER HALF BLACKmUPPER HALF BLACK
  sRIGHT QUADRANT BLACKmALL BUT UPPER LEFT QUADRANT BLACKaLEFT HALF BLACK CIRCLE
  aRIGHT HALF BLACK CIRCLEaINVERSE BULLETiWHITE CIRCLEaUPPER HALF INVERSE WHITE CIRCLE
  aLOWER HALF INVERSE WHITE CIRCLEaUPPER LEFT QUADRANT CIRCULAR ARCgRIGHT QUADRANT CIRCULAR ARC
  aLOWER RIGHT QUADRANT CIRCULAR ARCgLEFT QUADRANT CIRCULAR ARCaUPPER HALF CIRCLEaLOWER HALF CIRCLE
  aBLACK LOWER RIGHT TRIANGLEmLEFT TRIANGLEgUPPER LEFT TRIANGLEmRIGHT TRIANGLEaWHITE BULLET
  aSQUARE WITH LEFT HALF BLACKmRIGHT HALF BLACKmUPPER LEFT DIAGONAL HALF BLACK
  mLOWER RIGHT DIAGONAL HALF BLACKaWHITE SQUARE WITH VERTICAL BISECTING LINE
  gUP-POINTING TRIANGLE WITH DOTaUP-POINTING TRIANGLE WITH LEFT HALF BLACKbaRIGHT HALF BLACK
  aLARGE CIRCLEaWHITE SQUARE WITH UPPER LEFT QUADRANTsLOWER LEFT QUADRANTyRIGHT QUADRANT
  sUPPER RIGHT QUADRANTgCIRCLE WITH UPPER LEFT QUADRANTsLOWER LEFT QUADRANTyRIGHT QUADRANT
  sUPPER RIGHT QUADRANTaUPPER LEFT TRIANGLEgRIGHT TRIANGLEaLOWER LEFT TRIANGLEaWHITE MEDIUM SQUARE
  aBLACK MEDIUM SQUAREaWHITE MEDIUM SMALL SQUAREaBLACK MEDIUM SMALL SQUAREaLOWER RIGHT TRIANGLE
  aBLACK SUN WITH RAYSaCLOUDaUMBRELLAaSNOWMANaCOMETaBLACK STARaWHITE STARaLIGHTNINGaTHUNDERSTORMaSUN
  aASCENDING NODEaDESCENDING NODEaCONJUNCTIONaOPPOSITIONaBLACK TELEPHONEaWHITE TELEPHONEaBALLOT BOX
  k WITH CHECKqXaSALTIREaUMBRELLA WITH RAIN DROPSaHOT BEVERAGEaWHITE SHOGI PIECEaBLACK SHOGI PIECE
  aSHAMROCKaREVERSED ROTATED FLORAL HEART BULLETaBLACK LEFT POINTING INDEXgRIGHT POINTING INDEX
  aWHITE LEFT POINTING INDEXgUP POINTING INDEXgRIGHT POINTING INDEXgDOWN POINTING INDEX
  aSKULL AND CROSSBONESaCAUTION SIGNaRADIOACTIVE SIGNaBIOHAZARD SIGNaCADUCEUSaANKHaORTHODOX CROSS
  aCHI RHObROSS OF LORRAINEjJERUSALEMaSTAR AND CRESCENTaFARSI SYMBOLaADI SHAKTIaHAMMER AND SICKLE
  aPEACE SYMBOLaYIN YANGaTRIGRAM FOR HEAVENmLAKEmFIREmTHUNDERmWINDnATERmMOUNTAINmEARTH
  aWHEEL OF DHARMAcITE FROWNING FACEgSMILING FACEaBLACK SMILING FACEaWHITE SUN WITH RAYS
  aFIRST QUARTER MOONaLAST QUARTER MOONaMERCURYaFEMALE SIGNaEARTHaMALE SIGNaJUPITERaSATURNaURANUS
  aNEPTUNEaPLUTOaARIESaTAURUSaGEMINIaCANCERaLEOaVIRGOaLIBRAaSCORPIUSbAGITTARIUSaCAPRICORNaAQUARIUS
  aPISCESaWHITE CHESS KINGmQUEENmROOKmBISHOPmKNIGHTmPAWNaBLACK CHESS KINGmQUEENmROOKmBISHOPmKNIGHT
  mPAWNgSPADE SUITaWHITE HEART SUITgDIAMOND SUITaBLACK CLUB SUITaWHITE SPADE SUITaBLACK HEART SUIT
  gDIAMOND SUITaWHITE CLUB SUITaHOT SPRINGSaQUARTER NOTEaEIGHTH NOTEaBEAMED EIGHTH NOTES
  hSIXTEENTH NOTESaMUSIC FLAT SIGNgNATURAL SIGNgSHARP SIGNaWEST SYRIAC CROSSaEAST SYRIAC CROSS
  aUNIVERSAL RECYCLING SYMBOLaRECYCLING SYMBOL FOR TYPE-1 PLASTICSba2 PLASTICSba3 PLASTICS
  ba4 PLASTICSba5 PLASTICSba6 PLASTICSba7 PLASTICSvGENERIC MATERIALS
  aBLACK UNIVERSAL RECYCLING SYMBOLaRECYCLED PAPER SYMBOLaPARTIALLY-RECYCLED PAPER SYMBOL
  bERMANENT PAPER SIGNaWHEELCHAIR SYMBOLaDIE FACE-1j2j3j4j5j6aWHITE CIRCLE WITH DOT RIGHTsTWO DOTS
  aBLACK CIRCLE WITH WHITE DOT RIGHTsTWO WHITE DOTSaMONOGRAM FOR YANGoINaDIGRAM FOR GREATER YANG
  lLESSER YINtANGlGREATER YINaWHITE FLAGaBLACK FLAGaHAMMER AND PICKaANCHORaCROSSED SWORDS
  aSTAFF OF AESCULAPIUSbCALESaALEMBICaFLOWERaGEARaSTAFF OF HERMESaATOM SYMBOLaFLEUR-DE-LIS
  aOUTLINED WHITE STARaTHREE LINES CONVERGING RIGHTxLEFTaWARNING SIGNaHIGH VOLTAGE SIGN
  aDOUBLED FEMALE SIGNiMALE SIGNaINTERLOCKED FEMALE AND MALE SIGNaMALE AND FEMALE SIGN
  fWITH STROKE SIGNrAND MALE AND FEMALE SIGNaVERTICAL MALE WITH STROKE SIGN
  aHORIZONTAL MALE WITH STROKE SIGNaMEDIUM WHITE CIRCLEhBLACK CIRCLEhSMALL WHITE CIRCLE
  bARRIAGE SYMBOLaDIVORCE SYMBOLaUNMARRIED PARTNERSHIP SYMBOLaCOFFINaFUNERAL URNaNEUTERaCERESaPALLAS
  aJUNOaVESTAaCHIRONaBLACK MOON LILITHaSEXTILEcMISEXTILEaQUINCUNXaSESQUIQUADRATEbOCCER BALLaBASEBALL
  aSQUARED KEYaWHITE DRAUGHTS MANpKINGaBLACK DRAUGHTS MANpKINGaSNOWMAN WITHOUT SNOWbUN BEHIND CLOUD
  aRAINaBLACK SNOWMANaTHUNDER CLOUD AND RAINbURNED WHITE SHOGI PIECEhBLACK SHOGI PIECE
  aWHITE DIAMOND IN SQUAREaCROSSING LANESaDISABLED CARaOPHIUCHUSaPICKaCAR SLIDING
  aHELMET WITH WHITE CROSSaCIRCLED CROSSING LANESbHAINSaNO ENTRYaALTERNATE ONE-WAY LEFT WAY TRAFFIC
  aBLACK TWO-WAY LEFT WAY TRAFFICaWHITE TWO-WAY LEFT WAY TRAFFICaBLACK LEFT LANE MERGE
  aWHITE LEFT LANE MERGEaDRIVE SLOW SIGNaHEAVY WHITE DOWN-POINTING TRIANGLEaLEFT CLOSED ENTRY
  aSQUARED SALTIREaFALLING DIAGONAL IN WHITE CIRCLE IN BLACK SQUAREaBLACK TRUCK
  aRESTRICTED LEFT ENTRY-1w2aASTRONOMICAL SYMBOL FOR URANUS
  aHEAVY CIRCLE WITH STROKE AND TWO DOTS ABOVEaPENTAGRAMaRIGHT-HANDED INTERLACED PENTAGRAM
  aLEFT-HANDED INTERLACED PENTAGRAMaINVERTED PENTAGRAMaBLACK CROSS ON SHIELDaSHINTO SHRINEaCHURCH
  bASTLEaHISTORIC SITEaGEAR WITHOUT HUBj HANDLESaMAP SYMBOL FOR LIGHTHOUSEbOUNTAIN
  aUMBRELLA ON GROUNDaFOUNTAINbLAG IN HOLEbERRYaSAILBOATbQUARE FOUR CORNERSbKIERaICE SKATE
  aPERSON WITH BALLaTENTaJAPANESE BANK SYMBOLaHEADSTONE GRAVEYARD SYMBOLaFUEL PUMP
  aCUP ON BLACK SQUAREaWHITE FLAG WITH HORIZONTAL MIDDLE BLACK STRIPEaBLACK SAFETY SCISSORS
  aUPPER BLADE SCISSORSaBLACK SCISSORSaLOWER BLADE SCISSORSaWHITE SCISSORSgHEAVY CHECK MARK
  aTELEPHONE LOCATION SIGNbAPE DRIVEaAIRPLANEaENVELOPEaRAISED FISThHANDaVICTORY HANDaWRITING HAND
  aLOWER RIGHT PENCILaPENCILaUPPER RIGHT PENCILaWHITE NIBaBLACK NIBaCHECK MARKaHEAVY CHECK MARK
  aMULTIPLICATION XaHEAVY MULTIPLICATION XaBALLOT XaHEAVY BALLOT XaOUTLINED GREEK CROSS
  aHEAVY GREEK CROSSaOPEN CENTRE CROSSaHEAVY OPEN CENTRE CROSSaLATIN CROSS
  aSHADOWED WHITE LATIN CROSSaOUTLINED LATIN CROSSaMALTESE CROSSaSTAR OF DAVID
  aFOUR TEARDROP-SPOKED ASTERISKfBALLOON-SPOKED ASTERISKaHEAVY FOUR BALLOON-SPOKED ASTERISK
  aFOUR CLUB-SPOKED ASTERISKaBLACK FOUR POINTED STARaWHITE FOUR POINTED STARaSPARKLES
  bTRESS OUTLINED WHITE STARaCIRCLED WHITE STARaOPEN CENTRE BLACK STARaBLACK CENTRE WHITE STAR
  aOUTLINED BLACK STARaHEAVY OUTLINED BLACK STARaPINWHEEL STARaSHADOWED WHITE STARaHEAVY ASTERISK
  aOPEN CENTRE ASTERISKaEIGHT SPOKED ASTERISKgPOINTED BLACK STARoPINWHEEL STAR
  aSIX POINTED BLACK STARaEIGHT POINTED RECTILINEAR BLACK STAR
  aHEAVY EIGHT POINTED RECTILINEAR BLACK STARaTWELVE POINTED BLACK STARaSIXTEEN POINTED ASTERISK
  aTEARDROP-SPOKED ASTERISKaOPEN CENTRE TEARDROP-SPOKED ASTERISKaHEAVY TEARDROP-SPOKED ASTERISK
  aSIX PETALLED BLACK AND WHITE FLORETTEaBLACK FLORETTEaWHITE FLORETTE
  aEIGHT PETALLED OUTLINED BLACK FLORETTEaCIRCLED OPEN CENTRE EIGHT POINTED STAR
  aHEAVY TEARDROP-SPOKED PINWHEEL ASTERISKaSNOWFLAKEaTIGHT TRIFOLIATE SNOWFLAKE
  aHEAVY CHEVRON SNOWFLAKEaSPARKLEaHEAVY SPARKLEaBALLOON-SPOKED ASTERISK
  aEIGHT TEARDROP-SPOKED PROPELLER ASTERISKaHEAVY EIGHT TEARDROP-SPOKED PROPELLER ASTERISK
  aCROSS MARKaSHADOWED WHITE CIRCLEaNEGATIVE SQUARED CROSS MARK
  aLOWER RIGHT DROP-SHADOWED WHITE SQUAREaUPPER RIGHT DROP-SHADOWED WHITE SQUARE
  aLOWER RIGHT SHADOWED WHITE SQUAREaUPPER RIGHT SHADOWED WHITE SQUAREaBLACK QUESTION MARK ORNAMENT
  aWHITE QUESTION MARK ORNAMENTgEXCLAMATION MARK ORNAMENTaBLACK DIAMOND MINUS WHITE X
  aHEAVY EXCLAMATION MARK SYMBOLaLIGHT VERTICAL BARaMEDIUM VERTICAL BARaHEAVY VERTICAL BAR
  gSINGLE TURNED COMMA QUOTATION MARK ORNAMENTnCOMMA QUOTATION MARK ORNAMENT
  gDOUBLE TURNED COMMA QUOTATION MARK ORNAMENTnCOMMA QUOTATION MARK ORNAMENT
  gLOW SINGLE COMMA QUOTATION MARK ORNAMENTkDOUBLE COMMA QUOTATION MARK ORNAMENT
  aCURVED STEM PARAGRAPH SIGN ORNAMENTaHEAVY EXCLAMATION MARK ORNAMENT
  gHEART EXCLAMATION MARK ORNAMENTgBLACK HEARTaROTATED HEAVY BLACK HEART BULLETaFLORAL HEART
  aROTATED FLORAL HEART BULLETaMEDIUM LEFT PARENTHESIS ORNAMENThRIGHT PARENTHESIS ORNAMENT
  hFLATTENED LEFT PARENTHESIS ORNAMENTrRIGHT PARENTHESIS ORNAMENT
  hLEFT-POINTING ANGLE BRACKET ORNAMENThRIGHT-POINTING ANGLE BRACKET ORNAMENT
  aHEAVY LEFT-POINTING ANGLE QUOTATION MARK ORNAMENTgRIGHT-POINTING ANGLE QUOTATION MARK ORNAMENT
  gLEFT-POINTING ANGLE BRACKET ORNAMENTgRIGHT-POINTING ANGLE BRACKET ORNAMENT
  aLIGHT LEFT TORTOISE SHELL BRACKET ORNAMENTgRIGHT TORTOISE SHELL BRACKET ORNAMENT
  aMEDIUM LEFT CURLY BRACKET ORNAMENThRIGHT CURLY BRACKET ORNAMENT
  aDINGBAT NEGATIVE CIRCLED DIGIT ONEbfTWObgHREEbfFOURbgIVEbfSIXbgEVENbfEIGHTbfNINEzNUMBER TEN
  iCIRCLED SANS-SERIF DIGIT ONEbhTWObiHREEbhFOURbiIVEbhSIXbiEVENbhEIGHTbhNINEbbNUMBER TEN
  iNEGATIVE CIRCLED SANS-SERIF DIGIT ONEbqTWObrHREEbqFOURbrIVEbqSIXbrEVENbqEIGHTbqNINEbkNUMBER TEN
  aHEAVY WIDE-HEADED RIGHTWARDS ARROWgPLUS SIGNgMINUS SIGNgDIVISION SIGNgSOUTH EAST ARROW
  gRIGHTWARDS ARROWgNORTH EAST ARROWaDRAFTING POINT RIGHTWARDS ARROW
  aHEAVY ROUND-TIPPED RIGHTWARDS ARROWaTRIANGLE-HEADED RIGHTWARDS ARROW
  aHEAVY TRIANGLE-HEADED RIGHTWARDS ARROWaDASHED TRIANGLE-HEADED RIGHTWARDS ARROW
  aHEAVY DASHED TRIANGLE-HEADED RIGHTWARDS ARROWaBLACK RIGHTWARDS ARROW
  aTHREE-D TOP-LIGHTED RIGHTWARDS ARROWHEADiBOTTOM-LIGHTED RIGHTWARDS ARROWHEAD
  aBLACK RIGHTWARDS ARROWHEADaHEAVY BLACK CURVED DOWNWARDS AND RIGHTWARDS ARROW
  tUPWARDS AND RIGHTWARDS ARROWaSQUAT BLACK RIGHTWARDS ARROW
  aHEAVY CONCAVE-POINTED BLACK RIGHTWARDS ARROWaRIGHT-SHADED WHITE RIGHTWARDS ARROW
  aLEFT-SHADED WHITE RIGHTWARDS ARROWaBACK-TILTED SHADOWED WHITE RIGHTWARDS ARROW
  aFRONT-TILTED SHADOWED WHITE RIGHTWARDS ARROWaHEAVY LOWER RIGHT-SHADOWED WHITE RIGHTWARDS ARROW
  gUPPER RIGHT-SHADOWED WHITE RIGHTWARDS ARROWaNOTCHED LOWER RIGHT-SHADOWED WHITE RIGHTWARDS ARROW
  aCURLY LOOPaNOTCHED UPPER RIGHT-SHADOWED WHITE RIGHTWARDS ARROW
  aCIRCLED HEAVY WHITE RIGHTWARDS ARROWaWHITE-FEATHERED RIGHTWARDS ARROW
  aBLACK-FEATHERED SOUTH EAST ARROWqRIGHTWARDS ARROWqNORTH EAST ARROW
  aHEAVY BLACK-FEATHERED SOUTH EAST ARROWwRIGHTWARDS ARROWwNORTH EAST ARROW
  aTEARDROP-BARBED RIGHTWARDS ARROWaHEAVY TEARDROP-SHANKED RIGHTWARDS ARROW
  aWEDGE-TAILED RIGHTWARDS ARROWaHEAVY WEDGE-TAILED RIGHTWARDS ARROWaOPEN-OUTLINED RIGHTWARDS ARROW
  aDOUBLE CURLY LOOPaTHREE DIMENSIONAL ANGLEaWHITE TRIANGLE CONTAINING SMALL WHITE TRIANGLE
  aPERPENDICULARaOPEN SUBSEThPERSETaLEFT S-SHAPED BAG DELIMITERaRIGHT S-SHAPED BAG DELIMITER
  aOR WITH DOT INSIDEaREVERSE SOLIDUS PRECEDING SUBSETaSUPERSET PRECEDING SOLIDUS
  aVERTICAL BAR WITH HORIZONTAL STROKEaMATHEMATICAL RISING DIAGONALaLONG DIVISION
  aMATHEMATICAL FALLING DIAGONALaSQUARED LOGICAL ANDqORaWHITE DIAMOND WITH CENTRED DOTaAND WITH DOT
  aELEMENT OF OPENING UPWARDSaLOWER RIGHT CORNER WITH DOTaUPPER LEFT CORNER WITH DOTaLEFT OUTER JOIN
  aRIGHT OUTER JOINaFULL OUTER JOINaLARGE UP TACKgDOWN TACKbEFT AND RIGHT DOUBLE TURNSTILEpTACK
  fMULTIMAPbONG RIGHT TACKfLEFT TACKaUP TACK WITH CIRCLE ABOVEaLOZENGE DIVIDED BY HORIZONTAL RULE
  aWHITE CONCAVE-SIDED DIAMONDbb WITH LEFTWARDS TICKbhRIGHTWARDS TICKgSQUARE WITH LEFTWARDS TICK
  sRIGHTWARDS TICKaMATHEMATICAL LEFT WHITE SQUARE BRACKETnRIGHT WHITE SQUARE BRACKET
  nLEFT ANGLE BRACKETnRIGHT ANGLE BRACKETnLEFT DOUBLE ANGLE BRACKETnRIGHT DOUBLE ANGLE BRACKET
  nLEFT WHITE TORTOISE SHELL BRACKETnRIGHT WHITE TORTOISE SHELL BRACKETnLEFT FLATTENED PARENTHESIS
  nRIGHT FLATTENED PARENTHESISaUPWARDS QUADRUPLE ARROWaDOWNWARDS QUADRUPLE ARROW
  aANTICLOCKWISE GAPPED CIRCLE ARROWaCLOCKWISE GAPPED CIRCLE ARROWaRIGHT ARROW WITH CIRCLED PLUS
  aLONG LEFTWARDS ARROWfRIGHTWARDS ARROWfLEFT RIGHT ARROWjWARDS DOUBLE ARROWfRIGHTWARDS DOUBLE ARROW
  fLEFT RIGHT DOUBLE ARROWjWARDS ARROW FROM BARfRIGHTWARDS ARROW FROM BAR
  fLEFTWARDS DOUBLE ARROW FROM BARfRIGHTWARDS DOUBLE ARROW FROM BARqSQUIGGLE ARROW
  aBRAILLE PATTERN BLANKqDOTS-1v2v12v3v13v23v123v4v14v24v124v34v134v234v1234v5v15v25v125v35v135v235
  v1235v45v145v245v1245v345v1345v2345v12345v6v16v26v126v36v136v236v1236v46v146v246v1246v346v1346
  v2346v12346v56v156v256v1256v356v1356v2356v12356v456v1456v2456v12456v3456v13456v23456v123456v7v17
  v27v127v37v137v237v1237v47v147v247v1247v347v1347v2347v12347v57v157v257v1257v357v1357v2357v12357
  v457v1457v2457v12457v3457v13457v23457v123457v67v167v267v1267v367v1367v2367v12367v467v1467v2467
  v12467v3467v13467v23467v123467v567v1567v2567v12567v3567v13567v23567v123567v4567v14567v24567v124567
  v34567v134567v234567v1234567v8v18v28v128v38v138v238v1238v48v148v248v1248v348v1348v2348v12348v58
  v158v258v1258v358v1358v2358v12358v458v1458v2458v12458v3458v13458v23458v123458v68v168v268v1268v368
  v1368v2368v12368v468v1468v2468v12468v3468v13468v23468v123468v568v1568v2568v12568v3568v13568v23568
  v123568v4568v14568v24568v124568v34568v134568v234568v1234568v78v178v278v1278v378v1378v2378v12378
  v478v1478v2478v12478v3478v13478v23478v123478v578v1578v2578v12578v3578v13578v23578v123578v4578
  v14578v24578v124578v34578v134578v234578v1234578v678v1678v2678v12678v3678v13678v23678v123678v4678
  v14678v24678v124678v34678v134678v234678v1234678v5678v15678v25678v125678v35678v135678v235678
  v1235678v45678v145678v245678v1245678v345678v1345678v2345678v12345678
  aRIGHTWARDS TWO-HEADED ARROW WITH VERTICAL STROKEbhDOUBLE VERTICAL STROKE
  aLEFTWARDS DOUBLE ARROW WITH VERTICAL STROKEaRIGHTWARDS DOUBLE ARROW WITH VERTICAL STROKE
  aLEFT RIGHT DOUBLE ARROW WITH VERTICAL STROKEaRIGHTWARDS TWO-HEADED ARROW FROM BAR
  aLEFTWARDS DOUBLE ARROW FROM BARaRIGHTWARDS DOUBLE ARROW FROM BAR
  aDOWNWARDS ARROW WITH HORIZONTAL STROKEaUPWARDS ARROW WITH HORIZONTAL STROKEiTRIPLE ARROW
  aDOWNWARDS TRIPLE ARROWaLEFTWARDS DOUBLE DASH ARROWaRIGHTWARDS DOUBLE DASH ARROW
  aLEFTWARDS TRIPLE DASH ARROWaRIGHTWARDS TRIPLE DASH ARROWmWO-HEADED TRIPLE DASH ARROW
  lARROW WITH DOTTED STEMaUPWARDS ARROW TO BARaDOWNWARDS ARROW TO BAR
  aRIGHTWARDS ARROW WITH TAIL WITH VERTICAL STROKEbgDOUBLE VERTICAL STROKE
  lTWO-HEADED ARROW WITH TAILbl WITH VERTICAL STROKEbrDOUBLE VERTICAL STROKEaLEFTWARDS ARROW-TAIL
  aRIGHTWARDS ARROW-TAILaLEFTWARDS DOUBLE ARROW-TAILaRIGHTWARDS DOUBLE ARROW-TAIL
  aLEFTWARDS ARROW TO BLACK DIAMONDaRIGHTWARDS ARROW TO BLACK DIAMOND
  aLEFTWARDS ARROW FROM BAR TO BLACK DIAMONDaRIGHTWARDS ARROW FROM BAR TO BLACK DIAMOND
  aNORTH WEST AND SOUTH EAST ARROWgEAST AND SOUTH WEST ARROWgWEST ARROW WITH HOOK
  gEAST ARROW WITH HOOKaSOUTH EAST ARROW WITH HOOKgWEST ARROW WITH HOOK
  aNORTH WEST ARROW AND NORTH EAST ARROWgEAST ARROW AND SOUTH EAST ARROW
  aSOUTH EAST ARROW AND SOUTH WEST ARROWgWEST ARROW AND NORTH WEST ARROW
  aRISING DIAGONAL CROSSING FALLING DIAGONALaFALLING DIAGONAL CROSSING RISING DIAGONAL
  aSOUTH EAST ARROW CROSSING NORTH EAST ARROWaNORTH EAST ARROW CROSSING SOUTH EAST ARROW
  aFALLING DIAGONAL CROSSING NORTH EAST ARROWaRISING DIAGONAL CROSSING SOUTH EAST ARROW
  aNORTH EAST ARROW CROSSING NORTH WEST ARROWgWEST ARROW CROSSING NORTH EAST ARROW
  aWAVE ARROW POINTING DIRECTLY RIGHTaARROW POINTING RIGHTWARDS THEN CURVING UPWARDSbnDOWNWARDS
  pDOWNWARDS THEN CURVING LEFTWARDSbmRIGHTWARDSaRIGHT-SIDE ARC CLOCKWISE ARROW
  aLEFT-SIDE ARC ANTICLOCKWISE ARROWaTOP ARC ANTICLOCKWISE ARROWaBOTTOM ARC ANTICLOCKWISE ARROW
  aTOP ARC CLOCKWISE ARROW WITH MINUSiANTICLOCKWISE ARROW WITH PLUS
  aLOWER RIGHT SEMICIRCULAR CLOCKWISE ARROWgLEFT SEMICIRCULAR ANTICLOCKWISE ARROW
  aANTICLOCKWISE CLOSED CIRCLE ARROWaCLOCKWISE CLOSED CIRCLE ARROW
  aRIGHTWARDS ARROW ABOVE SHORT LEFTWARDS ARROWaLEFTWARDS ARROW ABOVE SHORT RIGHTWARDS ARROW
  aSHORT RIGHTWARDS ARROW ABOVE LEFTWARDS ARROWaRIGHTWARDS ARROW WITH PLUS BELOW
  aLEFTWARDS ARROW WITH PLUS BELOWaRIGHTWARDS ARROW THROUGH XaLEFT RIGHT ARROW THROUGH SMALL CIRCLE
  aUPWARDS TWO-HEADED ARROW FROM SMALL CIRCLEaLEFT BARB UP RIGHT BARB DOWN HARPOON
  kDOWN RIGHT BARB UP HARPOONaUP BARB RIGHT DOWN BARB LEFT HARPOONiLEFT DOWN BARB RIGHT HARPOON
  aLEFT BARB UP RIGHT BARB UP HARPOONaUP BARB RIGHT DOWN BARB RIGHT HARPOON
  aLEFT BARB DOWN RIGHT BARB DOWN HARPOONaUP BARB LEFT DOWN BARB LEFT HARPOON
  aLEFTWARDS HARPOON WITH BARB UP TO BARaRIGHTWARDS HARPOON WITH BARB UP TO BAR
  aUPWARDS HARPOON WITH BARB RIGHT TO BARaDOWNWARDS HARPOON WITH BARB RIGHT TO BAR
  aLEFTWARDS HARPOON WITH BARB DOWN TO BARaRIGHTWARDS HARPOON WITH BARB DOWN TO BAR
  aUPWARDS HARPOON WITH BARB LEFT TO BARaDOWNWARDS HARPOON WITH BARB LEFT TO BAR
  aLEFTWARDS HARPOON WITH BARB UP FROM BARaRIGHTWARDS HARPOON WITH BARB UP FROM BAR
  aUPWARDS HARPOON WITH BARB RIGHT FROM BARaDOWNWARDS HARPOON WITH BARB RIGHT FROM BAR
  aLEFTWARDS HARPOON WITH BARB DOWN FROM BARaRIGHTWARDS HARPOON WITH BARB DOWN FROM BAR
  aUPWARDS HARPOON WITH BARB LEFT FROM BARaDOWNWARDS HARPOON WITH BARB LEFT FROM BAR
  aLEFTWARDS HARPOON WITH BARB UP ABOVE LEFTWARDS HARPOON WITH BARB DOWN
  aUPWARDS HARPOON WITH BARB LEFT BESIDE UPWARDS HARPOON WITH BARB RIGHT
  aRIGHTWARDS HARPOON WITH BARB UP ABOVE RIGHTWARDS HARPOON WITH BARB DOWN
  aDOWNWARDS HARPOON WITH BARB LEFT BESIDE DOWNWARDS HARPOON WITH BARB RIGHT
  aLEFTWARDS HARPOON WITH BARB UP ABOVE RIGHTWARDS HARPOON WITH BARB UP
  bcDOWN ABOVE RIGHTWARDS HARPOON WITH BARB DOWN
  aRIGHTWARDS HARPOON WITH BARB UP ABOVE LEFTWARDS HARPOON WITH BARB UP
  bdDOWN ABOVE LEFTWARDS HARPOON WITH BARB DOWNaLEFTWARDS HARPOON WITH BARB UP ABOVE LONG DASH
  bcDOWN BELOW LONG DASHaRIGHTWARDS HARPOON WITH BARB UP ABOVE LONG DASHbdDOWN BELOW LONG DASH
  aUPWARDS HARPOON WITH BARB LEFT BESIDE DOWNWARDS HARPOON WITH BARB RIGHT
  aDOWNWARDS HARPOON WITH BARB LEFT BESIDE UPWARDS HARPOON WITH BARB RIGHT
  aRIGHT DOUBLE ARROW WITH ROUNDED HEADaEQUALS SIGN ABOVE RIGHTWARDS ARROW
  aTILDE OPERATOR ABOVE RIGHTWARDS ARROWaLEFTWARDS ARROW ABOVE TILDE OPERATOR
  aRIGHTWARDS ARROW ABOVE TILDE OPERATORxALMOST EQUAL TOaLESS-THAN ABOVE LEFTWARDS ARROW
  cFTWARDS ARROW THROUGH LESS-THANaGREATER-THAN ABOVE RIGHTWARDS ARROWaSUBSET ABOVE RIGHTWARDS ARROW
  aLEFTWARDS ARROW THROUGH SUBSETaSUPERSET ABOVE LEFTWARDS ARROWaLEFT FISH TAILaRIGHT FISH TAIL
  aUP FISH TAILaDOWN FISH TAILaTRIPLE VERTICAL BAR DELIMITERaZ NOTATION SPOTlTYPE COLON
  aLEFT WHITE CURLY BRACKETaRIGHT WHITE CURLY BRACKETaLEFT WHITE PARENTHESISaRIGHT WHITE PARENTHESIS
  aZ NOTATION LEFT IMAGE BRACKETlRIGHT IMAGE BRACKETlLEFT BINDING BRACKETlRIGHT BINDING BRACKET
  aLEFT SQUARE BRACKET WITH UNDERBARaRIGHT SQUARE BRACKET WITH UNDERBAR
  aLEFT SQUARE BRACKET WITH TICK IN TOP CORNERaRIGHT SQUARE BRACKET WITH TICK IN BOTTOM CORNER
  aLEFT SQUARE BRACKET WITH TICK IN BOTTOM CORNERaRIGHT SQUARE BRACKET WITH TICK IN TOP CORNER
  aLEFT ANGLE BRACKET WITH DOTaRIGHT ANGLE BRACKET WITH DOTaLEFT ARC LESS-THAN BRACKET
  aRIGHT ARC GREATER-THAN BRACKETaDOUBLE LEFT ARC GREATER-THAN BRACKEThRIGHT ARC LESS-THAN BRACKET
  aLEFT BLACK TORTOISE SHELL BRACKETaRIGHT BLACK TORTOISE SHELL BRACKETaDOTTED FENCE
  aVERTICAL ZIGZAG LINEaMEASURED ANGLE OPENING LEFTaRIGHT ANGLE VARIANT WITH SQUARE
  aMEASURED RIGHT ANGLE WITH DOTaANGLE WITH S INSIDEbCUTE ANGLEaSPHERICAL ANGLE OPENING LEFTyUP
  aTURNED ANGLEaREVERSED ANGLEaANGLE WITH UNDERBARaREVERSED ANGLE WITH UNDERBAR
  aOBLIQUE ANGLE OPENING UPwDOWNaMEASURED ANGLE WITH OPEN ARM ENDING IN ARROW POINTING UP AND RIGHT
  cjLEFTccDOWN AND RIGHTclLEFTccRIGHT AND UPccLEFT AND UPccRIGHT AND DOWNccLEFT AND DOWN
  aREVERSED EMPTY SETaEMPTY SET WITH OVERBARpSMALL CIRCLE ABOVEpRIGHT ARROW ABOVEpLEFT ARROW ABOVE
  aCIRCLE WITH HORIZONTAL BARgD VERTICAL BARiPARALLELiREVERSE SOLIDUSiPERPENDICULAR
  g DIVIDED BY HORIZONTAL BAR AND TOP HALF DIVIDED BY VERTICAL BARhWITH SUPERIMPOSED X
  gD ANTICLOCKWISE-ROTATED DIVISION SIGNaUP ARROW THROUGH CIRCLEaCIRCLED WHITE BULLETiBULLET
  iLESS-THANiGREATER-THANg WITH SMALL CIRCLE TO THE RIGHTmTWO HORIZONTAL STROKES TO THE RIGHT
  aSQUARED RISING DIAGONAL SLASHiFALLING DIAGONAL SLASHiASTERISKiSMALL CIRCLEjQUARE
  aTWO JOINED SQUARESbRIANGLE WITH DOT ABOVEoUNDERBARaS IN TRIANGLEaTRIANGLE WITH SERIFS AT BOTTOM
  aRIGHT TRIANGLE ABOVE LEFT TRIANGLEaLEFT TRIANGLE BESIDE VERTICAL BAR
  aVERTICAL BAR BESIDE RIGHT TRIANGLEaBOWTIE WITH LEFT HALF BLACKmRIGHT HALF BLACKbLACK BOWTIE
  aTIMES WITH LEFT HALF BLACKlRIGHT HALF BLACKaWHITE HOURGLASSaBLACK HOURGLASSaLEFT WIGGLY FENCE
  aRIGHT WIGGLY FENCEaLEFT DOUBLE WIGGLY FENCEaRIGHT DOUBLE WIGGLY FENCEaINCOMPLETE INFINITY
  aTIE OVER INFINITYaINFINITY NEGATED WITH VERTICAL BARaDOUBLE-ENDED MULTIMAP
  aSQUARE WITH CONTOURED OUTLINEaINCREASES ASaSHUFFLE PRODUCTaEQUALS SIGN AND SLANTED PARALLEL
  bg WITH TILDE ABOVEaIDENTICAL TO AND SLANTED PARALLELaGLEICH STARKaTHERMODYNAMIC
  aDOWN-POINTING TRIANGLE WITH LEFT HALF BLACKbcRIGHT HALF BLACKaBLACK DIAMOND WITH DOWN ARROW
  gLOZENGEaWHITE CIRCLE WITH DOWN ARROWaBLACK CIRCLE WITH DOWN ARROWaERROR-BARRED WHITE SQUARE
  nBLACK SQUAREnWHITE DIAMONDnBLACK DIAMONDnWHITE CIRCLEnBLACK CIRCLEaRULE-DELAYED
  bEVERSE SOLIDUS OPERATORaSOLIDUS WITH OVERBARaREVERSE SOLIDUS WITH HORIZONTAL STROKEaBIG SOLIDUS
  eREVERSE SOLIDUSaDOUBLE PLUSaTRIPLE PLUSaLEFT-POINTING CURVED ANGLE BRACKET
  aRIGHT-POINTING CURVED ANGLE BRACKETaTINYaMINYaN-ARY CIRCLED DOT OPERATORoPLUS OPERATOR
  oTIMES OPERATORgUNION OPERATOR WITH DOTbaPLUSgSQUARE INTERSECTION OPERATORnUNION OPERATOR
  aTWO LOGICAL AND OPERATORmOR OPERATORaN-ARY TIMES OPERATORaMODULO TWO SUMaSUMMATION WITH INTEGRAL
  aQUADRUPLE INTEGRAL OPERATORaFINITE PART INTEGRALaINTEGRAL WITH DOUBLE STROKEjAVERAGE WITH SLASH
  aCIRCULATION FUNCTIONaANTICLOCKWISE INTEGRATIONaLINE INTEGRATION WITH RECTANGULAR PATH AROUND POLE
  wSEMICIRCULAR PATH AROUND POLErNOT INCLUDING THE POLEaINTEGRAL AROUND A POINT OPERATOR
  aQUATERNION INTEGRAL OPERATORaINTEGRAL WITH LEFTWARDS ARROW WITH HOOKoTIMES SIGNoINTERSECTION
  oUNIONoOVERBARoUNDERBARaJOINaLARGE LEFT TRIANGLE OPERATORaZ NOTATION SCHEMA COMPOSITIONsPIPING
  tROJECTIONaPLUS SIGN WITH SMALL CIRCLE ABOVEpCIRCUMFLEX ACCENT ABOVEpTILDE ABOVEpDOT BELOW
  pTILDE BELOWpSUBSCRIPT TWOpBLACK TRIANGLEaMINUS SIGN WITH COMMA ABOVEqDOT BELOWqFALLING DOTS
  qRISING DOTSaPLUS SIGN IN LEFT HALF CIRCLEnRIGHT HALF CIRCLEaVECTOR OR CROSS PRODUCT
  aMULTIPLICATION SIGN WITH DOT ABOVEzUNDERBARaSEMIDIRECT PRODUCT WITH BOTTOM CLOSEDbMASH PRODUCT
  aMULTIPLICATION SIGN IN LEFT HALF CIRCLExRIGHT HALF CIRCLE
  aCIRCLED MULTIPLICATION SIGN WITH CIRCUMFLEX ACCENTaMULTIPLICATION SIGN IN DOUBLE CIRCLE
  aCIRCLED DIVISION SIGNaPLUS SIGN IN TRIANGLEaMINUS SIGN IN TRIANGLEbULTIPLICATION SIGN IN TRIANGLE
  aINTERIOR PRODUCTaRIGHTHAND INTERIOR PRODUCTaZ NOTATION RELATIONAL COMPOSITION
  aAMALGAMATION OR COPRODUCTaINTERSECTION WITH DOTaUNION WITH MINUS SIGNlOVERBAR
  aINTERSECTION WITH OVERBARsLOGICAL ANDaUNION WITH LOGICAL ORgABOVE INTERSECTION
  aINTERSECTION ABOVE UNIONaUNION ABOVE BAR ABOVE INTERSECTIONaINTERSECTION ABOVE BAR ABOVE UNION
  aUNION BESIDE AND JOINED WITH UNIONaINTERSECTION BESIDE AND JOINED WITH INTERSECTION
  aCLOSED UNION WITH SERIFShINTERSECTION WITH SERIFSaDOUBLE SQUARE INTERSECTIONoUNION
  aCLOSED UNION WITH SERIFS AND SMASH PRODUCTaLOGICAL AND WITH DOT ABOVEiOR WITH DOT ABOVE
  aDOUBLE LOGICAL ANDpORaTWO INTERSECTING LOGICAL ANDzORaSLOPING LARGE ORoAND
  aLOGICAL OR OVERLAPPING LOGICAL ANDiAND WITH MIDDLE STEMiOR WITH MIDDLE STEM
  iAND WITH HORIZONTAL DASHiOR WITH HORIZONTAL DASHiAND WITH DOUBLE OVERBARrUNDERBARrDOUBLE UNDERBAR
  aSMALL VEE WITH UNDERBARaLOGICAL OR WITH DOUBLE OVERBARxUNDERBARaZ NOTATION DOMAIN ANTIRESTRICTION
  lRANGE ANTIRESTRICTIONaEQUALS SIGN WITH DOT BELOWaIDENTICAL WITH DOT ABOVE
  aTRIPLE HORIZONTAL BAR WITH DOUBLE VERTICAL STROKEbbTRIPLE VERTICAL STROKE
  bILDE OPERATOR WITH DOT ABOVEuRISING DOTSaSIMILAR MINUS SIMILARaCONGRUENT WITH DOT ABOVE
  aEQUALS WITH ASTERISKaALMOST EQUAL TO WITH CIRCUMFLEX ACCENTbPPROXIMATELY EQUAL OR EQUAL TO
  aEQUALS SIGN ABOVE PLUS SIGNaPLUS SIGN ABOVE EQUALS SIGNaEQUALS SIGN ABOVE TILDE OPERATOR
  aDOUBLE COLON EQUALaTWO CONSECUTIVE EQUALS SIGNSbHREE CONSECUTIVE EQUALS SIGNS
  aEQUALS SIGN WITH TWO DOTS ABOVE AND TWO DOTS BELOWdIVALENT WITH FOUR DOTS ABOVE
  aLESS-THAN WITH CIRCLE INSIDEaGREATER-THAN WITH CIRCLE INSIDEaLESS-THAN WITH QUESTION MARK ABOVE
  aGREATER-THAN WITH QUESTION MARK ABOVEaLESS-THAN OR SLANTED EQUAL TO
  aGREATER-THAN OR SLANTED EQUAL TOaLESS-THAN OR SLANTED EQUAL TO WITH DOT INSIDE
  aGREATER-THAN OR SLANTED EQUAL TO WITH DOT INSIDEaLESS-THAN OR SLANTED EQUAL TO WITH DOT ABOVE
  aGREATER-THAN OR SLANTED EQUAL TO WITH DOT ABOVE
  aLESS-THAN OR SLANTED EQUAL TO WITH DOT ABOVE RIGHT
  aGREATER-THAN OR SLANTED EQUAL TO WITH DOT ABOVE LEFTaLESS-THAN OR APPROXIMATE
  aGREATER-THAN OR APPROXIMATEaLESS-THAN AND SINGLE-LINE NOT EQUAL TO
  aGREATER-THAN AND SINGLE-LINE NOT EQUAL TOaLESS-THAN AND NOT APPROXIMATE
  aGREATER-THAN AND NOT APPROXIMATEaLESS-THAN ABOVE DOUBLE-LINE EQUAL ABOVE GREATER-THAN
  aGREATER-THAN ABOVE DOUBLE-LINE EQUAL ABOVE LESS-THANaLESS-THAN ABOVE SIMILAR OR EQUAL
  aGREATER-THAN ABOVE SIMILAR OR EQUALaLESS-THAN ABOVE SIMILAR ABOVE GREATER-THAN
  aGREATER-THAN ABOVE SIMILAR ABOVE LESS-THANaLESS-THAN ABOVE GREATER-THAN ABOVE DOUBLE-LINE EQUAL
  aGREATER-THAN ABOVE LESS-THAN ABOVE DOUBLE-LINE EQUAL
  aLESS-THAN ABOVE SLANTED EQUAL ABOVE GREATER-THAN ABOVE SLANTED EQUAL
  aGREATER-THAN ABOVE SLANTED EQUAL ABOVE LESS-THAN ABOVE SLANTED EQUAL
  aSLANTED EQUAL TO OR LESS-THANuGREATER-THANuLESS-THAN WITH DOT INSIDEuGREATER-THAN WITH DOT INSIDE
  aDOUBLE-LINE EQUAL TO OR LESS-THANyGREATER-THANmSLANTED EQUAL TO OR LESS-THANbgGREATER-THAN
  aSIMILAR OR LESS-THANlGREATER-THANiABOVE LESS-THAN ABOVE EQUALS SIGN
  oGREATER-THAN ABOVE EQUALS SIGNaDOUBLE NESTED LESS-THANoGREATER-THANoLESS-THAN WITH UNDERBAR
  aGREATER-THAN OVERLAPPING LESS-THANnBESIDE LESS-THANaLESS-THAN CLOSED BY CURVE
  aGREATER-THAN CLOSED BY CURVEaLESS-THAN CLOSED BY CURVE ABOVE SLANTED EQUAL
  aGREATER-THAN CLOSED BY CURVE ABOVE SLANTED EQUALaSMALLER THANaLARGER THAN
  aSMALLER THAN OR EQUAL TOaLARGER THAN OR EQUAL TOaEQUALS SIGN WITH BUMPY ABOVE
  aPRECEDES ABOVE SINGLE-LINE EQUALS SIGNaSUCCEEDS ABOVE SINGLE-LINE EQUALS SIGN
  aPRECEDES ABOVE SINGLE-LINE NOT EQUAL TOaSUCCEEDS ABOVE SINGLE-LINE NOT EQUAL TO
  aPRECEDES ABOVE EQUALS SIGNaSUCCEEDS ABOVE EQUALS SIGNaPRECEDES ABOVE NOT EQUAL TO
  aSUCCEEDS ABOVE NOT EQUAL TOaPRECEDES ABOVE ALMOST EQUAL TOaSUCCEEDS ABOVE ALMOST EQUAL TO
  aPRECEDES ABOVE NOT ALMOST EQUAL TOaSUCCEEDS ABOVE NOT ALMOST EQUAL TOaDOUBLE PRECEDEShSUCCEEDS
  aSUBSET WITH DOTcPERSET WITH DOTcBSET WITH PLUS SIGN BELOWcPERSET WITH PLUS SIGN BELOW
  cBSET WITH MULTIPLICATION SIGN BELOWcPERSET WITH MULTIPLICATION SIGN BELOW
  cBSET OF OR EQUAL TO WITH DOT ABOVEcPERSET OF OR EQUAL TO WITH DOT ABOVEcBSET OF ABOVE EQUALS SIGN
  cPERSET OF ABOVE EQUALS SIGNcBSET OF ABOVE TILDE OPERATORcPERSET OF ABOVE TILDE OPERATOR
  cBSET OF ABOVE ALMOST EQUAL TOcPERSET OF ABOVE ALMOST EQUAL TOcBSET OF ABOVE NOT EQUAL TO
  cPERSET OF ABOVE NOT EQUAL TObQUARE LEFT OPEN BOX OPERATORhRIGHT OPEN BOX OPERATORaCLOSED SUBSET
  jPERSETjBSET OR EQUAL TOjPERSET OR EQUAL TOaSUBSET ABOVE SUPERSETcPERSET ABOVE SUBSET
  cBSET ABOVE SUBSETcPERSET ABOVE SUPERSETjBESIDE SUBSETqAND JOINED BY DASH WITH SUBSET
  aELEMENT OF OPENING DOWNWARDSaPITCHFORK WITH TEE TOPaTRANSVERSAL INTERSECTIONaFORKINGaNONFORKING
  aSHORT LEFT TACKgDOWN TACKgUP TACKaPERPENDICULAR WITH SaVERTICAL BAR TRIPLE RIGHT TURNSTILE
  aDOUBLE VERTICAL BAR LEFT TURNSTILEaVERTICAL BAR DOUBLE LEFT TURNSTILE
  aDOUBLE VERTICAL BAR DOUBLE LEFT TURNSTILEaLONG DASH FROM LEFT MEMBER OF DOUBLE VERTICAL
  aSHORT DOWN TACK WITH OVERBARgUP TACK WITH UNDERBARoABOVE SHORT DOWN TACKaDOUBLE DOWN TACKhUP TACK
  hSTROKE NOT SIGNaREVERSED DOUBLE STROKE NOT SIGNaDOES NOT DIVIDE WITH REVERSED NEGATION SLASH
  aVERTICAL LINE WITH CIRCLE ABOVEbaBELOWaDOWN TACK WITH CIRCLE BELOW
  aPARALLEL WITH HORIZONTAL STROKEoTILDE OPERATORaTRIPLE VERTICAL BAR BINARY RELATION
  uWITH HORIZONTAL STROKEhCOLON OPERATORhNESTED LESS-THANoGREATER-THAN
  aDOUBLE-LINE SLANTED LESS-THAN OR EQUAL TOuGREATER-THAN OR EQUAL TOaTRIPLE SOLIDUS BINARY RELATION
  aLARGE TRIPLE VERTICAL BAR OPERATORaDOUBLE SOLIDUS OPERATORaWHITE VERTICAL BAR
  aN-ARY WHITE VERTICAL BARbORTH EAST WHITE ARROWgWEST WHITE ARROWaSOUTH EAST WHITE ARROW
  gWEST WHITE ARROWaLEFT RIGHT WHITE ARROWeWARDS BLACK ARROWaUPWARDS BLACK ARROW
  aDOWNWARDS BLACK ARROWaNORTH EAST BLACK ARROWgWEST BLACK ARROWaSOUTH EAST BLACK ARROW
  gWEST BLACK ARROWaLEFT RIGHT BLACK ARROWaUP DOWN BLACK ARROWaRIGHTWARDS ARROW WITH TIP DOWNWARDS
  baUPWARDSaLEFTWARDS ARROW WITH TIP DOWNWARDSzUPWARDSaSQUARE WITH TOP HALF BLACKmBOTTOM HALF BLACK
  mUPPER RIGHT DIAGONAL HALF BLACKmLOWER LEFT DIAGONAL HALF BLACKaDIAMOND WITH LEFT HALF BLACK
  nRIGHT HALF BLACKnTOP HALF BLACKnBOTTOM HALF BLACKbOTTED SQUAREaBLACK LARGE SQUARE
  aWHITE LARGE SQUAREaBLACK VERY SMALL SQUAREaWHITE VERY SMALL SQUAREaBLACK PENTAGONaWHITE PENTAGON
  gHEXAGONaBLACK HEXAGONaHORIZONTAL BLACK HEXAGONaBLACK LARGE CIRCLEgMEDIUM DIAMOND
  aWHITE MEDIUM DIAMONDaBLACK MEDIUM LOZENGEaWHITE MEDIUM LOZENGEaBLACK SMALL DIAMONDmLOZENGE
  aWHITE SMALL LOZENGEaBLACK HORIZONTAL ELLIPSEaWHITE HORIZONTAL ELLIPSEaBLACK VERTICAL ELLIPSE
  aWHITE VERTICAL ELLIPSEaLEFT ARROW WITH SMALL CIRCLEaTHREE LEFTWARDS ARROWS
  aLEFT ARROW WITH CIRCLED PLUSbONG LEFTWARDS SQUIGGLE ARROW
  bEFTWARDS TWO-HEADED ARROW WITH VERTICAL STROKEbgDOUBLE VERTICAL STROKEbbFROM BAR
  vTRIPLE DASH ARROWkARROW WITH DOTTED STEMvTAIL WITH VERTICAL STROKEbfDOUBLE VERTICAL STROKE
  kTWO-HEADED ARROW WITH TAILbk WITH VERTICAL STROKEbqDOUBLE VERTICAL STROKEkARROW THROUGH X
  aWAVE ARROW POINTING DIRECTLY LEFTaEQUALS SIGN ABOVE LEFTWARDS ARROW
  aREVERSE TILDE OPERATOR ABOVE LEFTWARDS ARROWaLEFTWARDS ARROW ABOVE REVERSE ALMOST EQUAL TO
  aRIGHTWARDS ARROW THROUGH GREATER-THANzSUPERSETaLEFTWARDS QUADRUPLE ARROW
  aRIGHTWARDS QUADRUPLE ARROWbEVERSE TILDE OPERATOR ABOVE RIGHTWARDS ARROW
  bIGHTWARDS ARROW ABOVE REVERSE ALMOST EQUAL TOaTILDE OPERATOR ABOVE LEFTWARDS ARROW
  aLEFTWARDS ARROW ABOVE ALMOST EQUAL TOwREVERSE TILDE OPERATOR
  aRIGHTWARDS ARROW ABOVE REVERSE TILDE OPERATORaDOWNWARDS TRIANGLE-HEADED ZIGZAG ARROW
  aSHORT SLANTED NORTH ARROWgBACKSLANTED SOUTH ARROWaWHITE MEDIUM STARaBLACK SMALL STAR
  aWHITE SMALL STARaBLACK RIGHT-POINTING PENTAGONaWHITE RIGHT-POINTING PENTAGONaHEAVY LARGE CIRCLE
  gOVAL WITH OVAL INSIDEgCIRCLE WITH CIRCLE INSIDEm,mD SALTIREaSLANTED NORTH ARROW WITH HOOKED HEAD
  aBACKSLANTED SOUTH ARROW WITH HOOKED TAILaSLANTED NORTH ARROW WITH HORIZONTAL TAIL
  aBACKSLANTED SOUTH ARROW WITH HORIZONTAL TAILbENT ARROW POINTING DOWNWARDS THEN NORTH EAST
  aSHORT BENT ARROW POINTING DOWNWARDS THEN NORTH EASTaLEFTWARDS TRIANGLE-HEADED ARROW
  aUPWARDS TRIANGLE-HEADED ARROWaRIGHTWARDS TRIANGLE-HEADED ARROWaDOWNWARDS TRIANGLE-HEADED ARROW
  aLEFT RIGHT TRIANGLE-HEADED ARROWaUP DOWN TRIANGLE-HEADED ARROWaNORTH WEST TRIANGLE-HEADED ARROW
  gEAST TRIANGLE-HEADED ARROWaSOUTH EAST TRIANGLE-HEADED ARROWgWEST TRIANGLE-HEADED ARROW
  aLEFTWARDS TRIANGLE-HEADED DASHED ARROWaUPWARDS TRIANGLE-HEADED DASHED ARROW
  aRIGHTWARDS TRIANGLE-HEADED DASHED ARROWaDOWNWARDS TRIANGLE-HEADED DASHED ARROW
  aCLOCKWISE TRIANGLE-HEADED OPEN CIRCLE ARROWaANTICLOCKWISE TRIANGLE-HEADED OPEN CIRCLE ARROW
  aLEFTWARDS TRIANGLE-HEADED ARROW TO BARaUPWARDS TRIANGLE-HEADED ARROW TO BAR
  aRIGHTWARDS TRIANGLE-HEADED ARROW TO BARaDOWNWARDS TRIANGLE-HEADED ARROW TO BAR
  a+3+NORTH WEST TRIANGLE-HEADED ARROW TO BARgEAST TRIANGLE-HEADED ARROW TO BAR
  aSOUTH EAST TRIANGLE-HEADED ARROW TO BARgWEST TRIANGLE-HEADED ARROW TO BAR
  aLEFTWARDS TRIANGLE-HEADED ARROW WITH DOUBLE HORIZONTAL STROKE
  aUPWARDS TRIANGLE-HEADED ARROW WITH DOUBLE HORIZONTAL STROKE
  aRIGHTWARDS TRIANGLE-HEADED ARROW WITH DOUBLE HORIZONTAL STROKE
  aDOWNWARDS TRIANGLE-HEADED ARROW WITH DOUBLE HORIZONTAL STROKEaHORIZONTAL TAB KEYaVERTICAL TAB KEY
  aLEFTWARDS TRIANGLE-HEADED ARROW OVER RIGHTWARDS TRIANGLE-HEADED ARROW
  aUPWARDS TRIANGLE-HEADED ARROW LEFTWARDS OF DOWNWARDS TRIANGLE-HEADED ARROW
  aRIGHTWARDS TRIANGLE-HEADED ARROW OVER LEFTWARDS TRIANGLE-HEADED ARROW
  aDOWNWARDS TRIANGLE-HEADED ARROW LEFTWARDS OF UPWARDS TRIANGLE-HEADED ARROW
  aLEFTWARDS TRIANGLE-HEADED PAIRED ARROWSaUPWARDS TRIANGLE-HEADED PAIRED ARROWS
  aRIGHTWARDS TRIANGLE-HEADED PAIRED ARROWSaDOWNWARDS TRIANGLE-HEADED PAIRED ARROWS
  aLEFTWARDS BLACK CIRCLED WHITE ARROWaUPWARDS BLACK CIRCLED WHITE ARROW
  aRIGHTWARDS BLACK CIRCLED WHITE ARROWaDOWNWARDS BLACK CIRCLED WHITE ARROW
  aANTICLOCKWISE TRIANGLE-HEADED RIGHT U-SHAPED ARROWbeBOTTOM U-SHAPED ARROWbeLEFT U-SHAPED ARROW
  beTOP U-SHAPED ARROWaRETURN LEFThRIGHTaNEWLINE LEFTiRIGHT
  aFOUR CORNER ARROWS CIRCLING ANTICLOCKWISEaRIGHTWARDS BLACK ARROWa+2+SYMBOL FOR TYPE A ELECTRONICS
  aTHREE-D TOP-LIGHTED LEFTWARDS EQUILATERAL ARROWHEADiRIGHT-LIGHTED UPWARDS EQUILATERAL ARROWHEAD
  iTOP-LIGHTED RIGHTWARDS EQUILATERAL ARROWHEADiLEFT-LIGHTED DOWNWARDS EQUILATERAL ARROWHEAD
  aBLACK LEFTWARDS EQUILATERAL ARROWHEADgUPWARDS EQUILATERAL ARROWHEAD
  gRIGHTWARDS EQUILATERAL ARROWHEADgDOWNWARDS EQUILATERAL ARROWHEAD
  aDOWNWARDS TRIANGLE-HEADED ARROW WITH LONG TIP LEFTWARDSbuRIGHTWARDS
  aUPWARDS TRIANGLE-HEADED ARROW WITH LONG TIP LEFTWARDSbsRIGHTWARDS
  aLEFTWARDS TRIANGLE-HEADED ARROW WITH LONG TIP UPWARDS
  aRIGHTWARDS TRIANGLE-HEADED ARROW WITH LONG TIP UPWARDS
  aLEFTWARDS TRIANGLE-HEADED ARROW WITH LONG TIP DOWNWARDS
  aRIGHTWARDS TRIANGLE-HEADED ARROW WITH LONG TIP DOWNWARDS
  aBLACK CURVED DOWNWARDS AND LEFTWARDS ARROWbbRIGHTWARDS ARROWnUPWARDS AND LEFTWARDS ARROW
  zRIGHTWARDS ARROWnLEFTWARDS AND UPWARDS ARROWnRIGHTWARDS AND UPWARDS ARROW
  nLEFTWARDS AND DOWNWARDS ARROWnRIGHTWARDS AND DOWNWARDS ARROWaRIBBON ARROW DOWN LEFTsRIGHTnUP LEFT
  qRIGHTnLEFT UPnRIGHT UPnLEFT DOWNnRIGHT DOWNaUPWARDS WHITE ARROW FROM BAR WITH HORIZONTAL BAR
  c ARROWHEAD IN A RECTANGLE BOXaOVERLAPPING WHITE SQUARESsAND BLACK SQUARESmBLACK SQUARES
  aBALLOT BOX WITH LIGHT XaCIRCLED XiBOLD XaBLACK SQUARE CENTREDgDIAMOND CENTRED
  aTURNED BLACK PENTAGONaHORIZONTAL BLACK OCTAGONaBLACK OCTAGONgMEDIUM UP-POINTING TRIANGLE CENTRED
  nDOWN-POINTING TRIANGLE CENTREDnLEFT-POINTING TRIANGLE CENTREDnRIGHT-POINTING TRIANGLE CENTRED
  aNEPTUNE FORM TWOaTOP HALF BLACK CIRCLEaBOTTOM HALF BLACK CIRCLEaLIGHT FOUR POINTED BLACK CUSP
  aROTATED LIGHT FOUR POINTED BLACK CUSPaWHITE FOUR POINTED CUSPaROTATED WHITE FOUR POINTED CUSP
  aSQUARE POSITION INDICATORaUNCERTAINTY SIGNaGROUP MARKaPLUTO FORM TWOmHREElFOURmIVEaTRANSPLUTO
  aPROSERPINAaASTRAEAaHYGIEAaPHOLUSaNESSUSaWHITE MOON SELENAaBLACK DIAMOND ON CROSS
  aTRUE LIGHT MOON ARTAaCUPIDOaHADESaZEUSaKRONOSaAPOLLONbDMETOSaVULCANUSaPOSEIDON
  aLEFT HALF BLACK STARaRIGHT HALF BLACK STARaSTAR WITH LEFT HALF BLACKkRIGHT HALF BLACK
  aLEFTWARDS TWO-HEADED ARROW WITH TRIANGLE ARROWHEADS
  aUPWARDS TWO-HEADED ARROW WITH TRIANGLE ARROWHEADS
  aRIGHTWARDS TWO-HEADED ARROW WITH TRIANGLE ARROWHEADS
  aDOWNWARDS TWO-HEADED ARROW WITH TRIANGLE ARROWHEADSaERIS FORM ONEkTWOaSEDNA
  aRUSSIAN ASTROLOGICAL SYMBOL VIGINTILEbcNOVILEbcQUINTILEbcBINOVILEbcSENTAGONbcTREDECILE
  aEQUALS SIGN WITH INFINITY BELOWaUNITED SYMBOLaSEPARATED SYMBOLaDOUBLED SYMBOLaPASSED SYMBOL
  aREVERSED RIGHT ANGLEaHELLSCHREIBER PAUSE SYMBOLaGLAGOLITIC CAPITAL LETTER AZUbaBUKYbaVEDE
  baGLAGOLIbaDOBRObaYESTUbaZHIVETEbaDZELObaZEMLJAbaIZHEbbNITIAL IZHEbb,baDJERVIbaKAKObaLJUDIJE
  baMYSLITEbaNASHIbaONUbaPOKOJIbaRITSIbaSLOVObaTVRIDObaUKUbaFRITUbaHERUbaOTUbaPEbaSHTAbaTSIbaCHRIVI
  baSHAbaYERUbdIbbATIbaSPIDERY HAbaYUbaSMALL YUSbj WITH TAILbaYObaIOTATED SMALL YUSbaBIG YUS
  baIOTATED BIG YUSbaFITAbaIZHITSAbaSHTAPICbaTROKUTASTI AbaLATINATE MYSLITEbaCAUDATE CHRIVI
  lSMALL LETTER AZUyBUKYyVEDEyGLAGOLIyDOBROyYESTUyZHIVETEyDZELOyZEMLJAyIZHEzNITIAL IZHEz,yDJERVI
  yKAKOyLJUDIJEyMYSLITEyNASHIyONUyPOKOJIyRITSIySLOVOyTVRIDOyUKUyFRITUyHERUyOTUyPEySHTAyTSIyCHRIVI
  ySHAyYERUbbIzATIySPIDERY HAyYUySMALL YUSbh WITH TAILyYOyIOTATED SMALL YUSyBIG YUSyIOTATED BIG YUS
  yFITAyIZHITSAySHTAPICyTROKUTASTI AyLATINATE MYSLITEyCAUDATE CHRIVI
  aLATIN CAPITAL LETTER L WITH DOUBLE BARgSMALL LETTER L WITH DOUBLE BAR
  gCAPITAL LETTER L WITH MIDDLE TILDEvP WITH STROKEvR WITH TAILgSMALL LETTER A WITH STROKE
  tT WITH DIAGONAL STROKEgCAPITAL LETTER H WITH DESCENDERgSMALL LETTER H WITH DESCENDER
  gCAPITAL LETTER K WITH DESCENDERgSMALL LETTER K WITH DESCENDERgCAPITAL LETTER Z WITH DESCENDER
  gSMALL LETTER Z WITH DESCENDERgCAPITAL LETTER ALPHAvM WITH HOOKvTURNED AbdLPHA
  gSMALL LETTER V WITH RIGHT HOOKgCAPITAL LETTER W WITH HOOKgSMALL LETTER W WITH HOOKtV WITH CURL
  gCAPITAL LETTER HALF HgSMALL LETTER HALF HtTAILLESS PHItE WITH NOTCHtTURNED R WITH TAIL
  tO WITH LOW RING INSIDEgLETTER SMALL CAPITAL TURNED EgSUBSCRIPT SMALL LETTER J
  aMODIFIER LETTER CAPITAL VaLATIN CAPITAL LETTER S WITH SWASH TAILvZ WITH SWASH TAIL
  aCOPTIC CAPITAL LETTER ALFAhSMALL LETTER ALFAhCAPITAL LETTER VIDAhSMALL LETTER VIDA
  hCAPITAL LETTER GAMMAhSMALL LETTER GAMMAhCAPITAL LETTER DALDAhSMALL LETTER DALDA
  hCAPITAL LETTER EIEhSMALL LETTER EIEhCAPITAL LETTER SOUhSMALL LETTER SOUhCAPITAL LETTER ZATA
  hSMALL LETTER ZATAhCAPITAL LETTER HATEhSMALL LETTER HATEhCAPITAL LETTER THETHEhSMALL LETTER THETHE
  hCAPITAL LETTER IAUDAhSMALL LETTER IAUDAhCAPITAL LETTER KAPAhSMALL LETTER KAPA
  hCAPITAL LETTER LAULAhSMALL LETTER LAULAhCAPITAL LETTER MIhSMALL LETTER MIhCAPITAL LETTER NI
  hSMALL LETTER NIhCAPITAL LETTER KSIhSMALL LETTER KSIhCAPITAL LETTER OhSMALL LETTER O
  hCAPITAL LETTER PIhSMALL LETTER PIhCAPITAL LETTER ROhSMALL LETTER ROhCAPITAL LETTER SIMA
  hSMALL LETTER SIMAhCAPITAL LETTER TAUhSMALL LETTER TAUhCAPITAL LETTER UAhSMALL LETTER UA
  hCAPITAL LETTER FIhSMALL LETTER FIhCAPITAL LETTER KHIhSMALL LETTER KHIhCAPITAL LETTER PSI
  hSMALL LETTER PSIhCAPITAL LETTER OOUhSMALL LETTER OOUhCAPITAL LETTER DIALECT-P ALEF
  hSMALL LETTER DIALECT-P ALEFhCAPITAL LETTER OLD COPTIC AINhSMALL LETTER OLD COPTIC AIN
  hCAPITAL LETTER CRYPTOGRAMMIC EIEhSMALL LETTER CRYPTOGRAMMIC EIEhCAPITAL LETTER DIALECT-P KAPA
  hSMALL LETTER DIALECT-P KAPAhCAPITAL LETTER DIALECT-P NIhSMALL LETTER DIALECT-P NI
  hCAPITAL LETTER CRYPTOGRAMMIC NIhSMALL LETTER CRYPTOGRAMMIC NIhCAPITAL LETTER OLD COPTIC OOU
  hSMALL LETTER OLD COPTIC OOUhCAPITAL LETTER SAMPIhSMALL LETTER SAMPIhCAPITAL LETTER CROSSED SHEI
  hSMALL LETTER CROSSED SHEIhCAPITAL LETTER OLD COPTIC SHEIhSMALL LETTER OLD COPTIC SHEI
  hCAPITAL LETTER OLD COPTIC ESHhSMALL LETTER OLD COPTIC ESHhCAPITAL LETTER AKHMIMIC KHEI
  hSMALL LETTER AKHMIMIC KHEIhCAPITAL LETTER DIALECT-P HORIhSMALL LETTER DIALECT-P HORI
  hCAPITAL LETTER OLD COPTIC HORIhSMALL LETTER OLD COPTIC HORIhCAPITAL LETTER OLD COPTIC HA
  hSMALL LETTER OLD COPTIC HAhCAPITAL LETTER L-SHAPED HAhSMALL LETTER L-SHAPED HA
  hCAPITAL LETTER OLD COPTIC HEIhSMALL LETTER OLD COPTIC HEIhCAPITAL LETTER OLD COPTIC HAT
  hSMALL LETTER OLD COPTIC HAThCAPITAL LETTER OLD COPTIC GANGIAhSMALL LETTER OLD COPTIC GANGIA
  hCAPITAL LETTER OLD COPTIC DJAhSMALL LETTER OLD COPTIC DJAhCAPITAL LETTER OLD COPTIC SHIMA
  hSMALL LETTER OLD COPTIC SHIMAhCAPITAL LETTER OLD NUBIAN SHIMAhSMALL LETTER OLD NUBIAN SHIMA
  hCAPITAL LETTER OLD NUBIAN NGIhSMALL LETTER OLD NUBIAN NGIhCAPITAL LETTER OLD NUBIAN NYI
  hSMALL LETTER OLD NUBIAN NYIhCAPITAL LETTER OLD NUBIAN WAUhSMALL LETTER OLD NUBIAN WAUiYMBOL KAI
  oMI ROoPI ROoSTAUROSoTAU ROoKHI ROoSHIMA SIMAhCAPITAL LETTER CRYPTOGRAMMIC SHEI
  hSMALL LETTER CRYPTOGRAMMIC SHEIhCAPITAL LETTER CRYPTOGRAMMIC GANGIA
  hSMALL LETTER CRYPTOGRAMMIC GANGIAhCOMBINING NI ABOVErSPIRITUS ASPERbaLENIS
  iAPITAL LETTER BOHAIRIC KHEIhSMALL LETTER BOHAIRIC KHEIh+6+OLD NUBIAN FULL STOP
  sDIRECT QUESTION MARKsINDIRECT QUESTION MARKsVERSE DIVIDERhFRACTION ONE HALFiULL STOP
  hMORPHOLOGICAL DIVIDERaGEORGIAN SMALL LETTER ANwBANwGANwDONwENwVINwZENwTANwINwKANwLASwMANwNARwON
  wPARwZHARwRAEwSANwTARwUNwPHARwKHARwGHANwQARwSHINwCHINxANwJILwCILxHARwXANwJHANwHAExExIEwWEwHARxOE
  w+2+YNw+6+AENa+3+TIFINAGH LETTER YAsBtHsGtHHqBERBER ACADEMY YAJqYAJsDtHtDuHrEYrAFsKqTUAREG YAK
  qYAKHHsHqBERBER ACADEMY YAHqTUAREG YAHqYAHHsAsKHqTUAREG YAKHqYAQqTUAREG YAQqYIrAZHqAHAGGAR YAZH
  qTUAREG YAZHqYALsMsNqTUAREG YAGNzNGqYAPrUrARtRsGHqTUAREG YAGHqAYER YAGHqYAStStHsTtHsCHsTTsVsWsYsZ
  qTAWELLEMET YAZqYAZZrErOj+8+MODIFIER LETTER LABIALIZATION MARKjSEPARATOR MARKj+f+CONSONANT JOINER
  aETHIOPIC SYLLABLE LOAsMOAsROAsSOAtHOAsBOAsTOAsCOAsNOAtYOAsGLOTTAL OAsZOAsDOAtDOAsJOAsTHOAsCHOA
  sPHOAtOAsGGWAvIvEEw,s+a+SSAuUuIuAAuEEv,uOs+2+CCAuUuIuAAuEEv,uOs+2+ZZAuUuIuAAuEEv,uOs+2+CCHAvUvIvAA
  vEEw,vOs+2+QYAuUuIuAAuEEv,uOs+2+KYAuUuIuAAuEEv,uOs+2+XYAuUuIuAAuEEv,uOs+2+GYAuUuIuAAuEEv,uO
  a+2+COMBINING CYRILLIC LETTER BEbaVEbaGHEbaDEbaZHEbbEbaKAbaELbbMbbNbaObaPEbaERbbSbaTEbaHAbaTSE
  baCHEbaSHAbcCHAbaFITAbaES-TEbaAbaIEbaDJERVbaMONOGRAPH UKbaYATbbUbaIOTIFIED AbaLITTLE YUSbaBIG YUS
  baIOTIFIED BIG YUSaRIGHT ANGLE SUBSTITUTION MARKERmDOTTED SUBSTITUTION MARKER
  aLEFT SUBSTITUTION BRACKETaRIGHT SUBSTITUTION BRACKETaLEFT DOTTED SUBSTITUTION BRACKET
  aRIGHT DOTTED SUBSTITUTION BRACKETbAISED INTERPOLATION MARKERhDOTTED INTERPOLATION MARKER
  aDOTTED TRANSPOSITION MARKERaLEFT TRANSPOSITION BRACKETaRIGHT TRANSPOSITION BRACKETbAISED SQUARE
  aLEFT RAISED OMISSION BRACKETaRIGHT RAISED OMISSION BRACKETaEDITORIAL CORONISaPARAGRAPHOS
  aFORKED PARAGRAPHOSaREVERSED FORKED PARAGRAPHOSaHYPODIASTOLEaDOTTED OBELOScWNWARDS ANCORA
  aUPWARDS ANCORAaDOTTED RIGHT-POINTING ANGLEcUBLE OBLIQUE HYPHENaINVERTED INTERROBANGaPALM BRANCH
  aHYPHEN WITH DIAERESISaTILDE WITH RING ABOVEaLEFT LOW PARAPHRASE BRACKET
  aRIGHT LOW PARAPHRASE BRACKETaTILDE WITH DOT ABOVEpBELOWaLEFT VERTICAL BAR WITH QUILL
  aRIGHT VERTICAL BAR WITH QUILLaTOP LEFT HALF BRACKETeRIGHT HALF BRACKETaBOTTOM LEFT HALF BRACKET
  hRIGHT HALF BRACKETaLEFT SIDEWAYS U BRACKETaRIGHT SIDEWAYS U BRACKETaLEFT DOUBLE PARENTHESIS
  aRIGHT DOUBLE PARENTHESISaTWO DOTS OVER ONE DOT PUNCTUATIONaONE DOT OVER TWO DOTS PUNCTUATION
  aSQUARED FOUR DOT PUNCTUATIONaFIVE DOT MARKaREVERSED QUESTION MARKaVERTICAL TILDEaRING POINT
  aWORD SEPARATOR MIDDLE DOTaTURNED COMMAaRAISED DOThCOMMAaTURNED SEMICOLONaDAGGER WITH LEFT GUARD
  mRIGHT GUARDaTURNED DAGGERbOP HALF SECTION SIGNbWO-EM DASHbHREE-EM DASHaSTENOGRAPHIC FULL STOP
  aVERTICAL SIX DOTSaWIGGLY VERTICAL LINEaCAPITULUMaDOUBLE HYPHENaREVERSED COMMA
  aDOUBLE LOW-REVERSED-9 QUOTATION MARKbASH WITH LEFT UPTURNbOUBLE SUSPENSION MARK
  aINVERTED LOW KAVYKAt WITH KAVYKA ABOVEaLOW KAVYKAk WITH DOTaDOUBLE STACKED COMMAcTTED SOLIDUS
  aTRIPLE DAGGERaMEDIEVAL COMMAaPARAGRAPHUS MARKbUNCTUS ELEVATUS MARKaCORNISH VERSE DIVIDER
  bROSS PATTY WITH RIGHT CROSSBARrLEFT CROSSBARaTIRONIAN SIGN CAPITAL ETaMEDIEVAL EXCLAMATION MARK
  jQUESTION MARKaLEFT SQUARE BRACKET WITH STROKEaRIGHT SQUARE BRACKET WITH STROKE
  aLEFT SQUARE BRACKET WITH DOUBLE STROKEaRIGHT SQUARE BRACKET WITH DOUBLE STROKE
  aTOP HALF LEFT PARENTHESISjRIGHT PARENTHESISaBOTTOM HALF LEFT PARENTHESISmRIGHT PARENTHESIS
  aOBLIQUE HYPHENa+23+CJK RADICAL REPEATmCLIFFmSECOND ONEtTWOuHREEmPERSONmBOXmTABLEmKNIFE ONEsTWO
  mDIVINATIONmSEALnMALL ONEsTWOmLAME ONErTWOsHREErFOURmSNAKEmTHREADmSNOUT ONEsTWOmHEART ONEsTWOnAND
  mRAPm+2+CHOKEmSUNmMOONmDEATHmMOTHERmCIVILIANmWATER ONEsTWOmFIREmPAW ONEqTWO
  mSIMPLIFIED HALF TREE TRUNKmCOWmDOGmJADEmBOLT OF CLOTHmEYEmSPIRIT ONEtTWOmBAMBOOmSILK
  mC-SIMPLIFIED SILKmNET ONEqTWOrHREEqFOURmMESHmSHEEPmRAMmEWEmOLDmBRUSH ONEsTWOmMEATnORTARmGRASS ONE
  sTWOtHREEmTIGERmCLOTHESmWEST ONErTWOmC-SIMPLIFIED SEEmSIMPLIFIED HORNmHORNmC-SIMPLIFIED SPEECH
  baHELLmFOOTmC-SIMPLIFIED CARTmSIMPLIFIED WALKmWALK ONErTWOmCITYn-SIMPLIFIED GOLDmLONG ONErTWO
  mC-SIMPLIFIED LONGzGATEmMOUND ONEsTWOmRAINmBLUEmC-SIMPLIFIED TANNED LEATHERzLEAFzWINDzFLYmEAT ONE
  qTWOrHREEmC-SIMPLIFIED EATmHEADmC-SIMPLIFIED HORSEmBONEmGHOSTmC-SIMPLIFIED FISHzBIRDzSALT
  mSIMPLIFIED WHEATxYELLOWmC-SIMPLIFIED FROGmJ-SIMPLIFIED EVENmC-SIMPLIFIED EVENmJ-SIMPLIFIED TOOTH
  mC-SIMPLIFIED TOOTHmJ-SIMPLIFIED DRAGONmC-SIMPLIFIED DRAGONmTURTLEmJ-SIMPLIFIED TURTLE
  mC-SIMPLIFIED TURTLEa+d+KANGXI RADICAL ONEpLINEpDOTpSLASHqECONDpHOOKpTWOpLIDpMANpLEGSpENTERqIGHT
  pDOWN BOXpCOVERpICEpTABLEpOPEN BOXpKNIFEpPOWERpWRAPpSPOONpRIGHT OPEN BOXpHIDING ENCLOSUREpTEN
  pDIVINATIONpSEALpCLIFFpPRIVATEpAGAINpMOUTHpENCLOSUREqARTHpSCHOLARpGOr SLOWLYpEVENINGpBIGpWOMAN
  pCHILDpROOFpINCHpSMALLpLAMEpCORPSEpSPROUTpMOUNTAINpRIVERpWORKpONESELFpTURBANpDRYpSHORT THREAD
  pDOTTED CLIFFpLONG STRIDEpTWO HANDSpSHOOTpBOWpSNOUTpBRISTLEpSTEPpHEARTqALBERDpDOORpHANDpBRANCHpRAP
  pSCRIPTpDIPPERpAXEpSQUAREpNOTpSUNqAYpMOONpTREEpLACKpSTOPpDEATHpWEAPONpDO NOTpCOMPAREpFURpCLAN
  pSTEAMpWATERpFIREpCLAWpFATHERpDOUBLE XpHALF TREE TRUNKpSLICEpFANGpCOWpDOGpPROFOUNDpJADEpMELONpTILE
  pSWEETpLIFEpUSEpFIELDpBOLT OF CLOTHpSICKNESSpDOTTED TENTpWHITEpSKINpDISHpEYEpSPEARpARROWpSTONE
  qPIRITpTRACKpGRAINpCAVEpSTANDpBAMBOOpRICEpSILKpJARpNETpSHEEPpFEATHERpOLDpANDpPLOWpEARpBRUSHpMEAT
  qINISTERpSELFpARRIVEpMORTARpTONGUEpOPPOSEpBOATpSTOPPINGpCOLORpGRASSpTIGERpINSECTpBLOOD
  pWALK ENCLOSUREpCLOTHESpWESTpSEEpHORNpSPEECHpVALLEYpBEANpPIGpBADGERpSHELLpREDqUNpFOOTpBODYpCART
  pBITTERpMORNINGpWALKpCITYpWINEpDISTINGUISHpVILLAGEpGOLDpLONGpGATEpMOUNDpSLAVEqHORT TAILED BIRD
  pRAINpBLUEpWRONGpFACEpLEATHERpTANNED LEATHERpLEEKpSOUNDpLEAFpWINDpFLYpEATpHEADpFRAGRANTpHORSEpBONE
  pTALLpHAIRpFIGHTpSACRIFICIAL WINEpCAULDRONpGHOSTpFISHpBIRDpSALTpDEERpWHEATpHEMPpYELLOWpMILLET
  pBLACKpEMBROIDERYpFROGpTRIPODpDRUMpRATpNOSEpEVENpTOOTHpDRAGONpTURTLEpFLUTE
  a+1b+IDEOGRAPHIC DESCRIPTION CHARACTER LEFT TO RIGHTbiABOVE TO BELOWbiLEFT TO MIDDLE AND RIGHT
  biABOVE TO MIDDLE AND BELOWbiFULL SURROUNDbiSURROUND FROM ABOVEbwBELOWbwLEFTbwUPPER LEFTccRIGHT
  bwLOWER LEFTbiOVERLAIDm+5+SPACEmCOMMAmFULL STOPaDITTO MARKaJAPANESE INDUSTRIAL STANDARD SYMBOL
  aIDEOGRAPHIC ITERATION MARKmCLOSING MARKmNUMBER ZEROaLEFT ANGLE BRACKETaRIGHT ANGLE BRACKET
  aLEFT DOUBLE ANGLE BRACKETaRIGHT DOUBLE ANGLE BRACKETaLEFT CORNER BRACKETaRIGHT CORNER BRACKET
  aLEFT WHITE CORNER BRACKETaRIGHT WHITE CORNER BRACKETaLEFT BLACK LENTICULAR BRACKET
  aRIGHT BLACK LENTICULAR BRACKETaPOSTAL MARKaGETA MARKaLEFT TORTOISE SHELL BRACKET
  aRIGHT TORTOISE SHELL BRACKETaLEFT WHITE LENTICULAR BRACKETaRIGHT WHITE LENTICULAR BRACKET
  aLEFT WHITE TORTOISE SHELL BRACKETaRIGHT WHITE TORTOISE SHELL BRACKETaLEFT WHITE SQUARE BRACKET
  aRIGHT WHITE SQUARE BRACKETaWAVE DASHaREVERSED DOUBLE PRIME QUOTATION MARK
  aDOUBLE PRIME QUOTATION MARKaLOW DOUBLE PRIME QUOTATION MARKaPOSTAL MARK FACEaHANGZHOU NUMERAL ONE
  rTWOsHREErFOURsIVErSIXsEVENrEIGHTrNINEaIDEOGRAPHIC LEVEL TONE MARKmRISING TONE MARK
  mDEPARTING TONE MARKmENTERING TONE MARKaHANGUL SINGLE DOT TONE MARKhDOUBLE DOT TONE MARKaWAVY DASH
  aVERTICAL KANA REPEAT MARKvWITH VOICED SOUND MARKvMARK UPPER HALF
  vWITH VOICED SOUND MARK UPPER HALFvMARK LOWER HALFaCIRCLED POSTAL MARK
  aIDEOGRAPHIC TELEGRAPH LINE FEED SEPARATOR SYMBOLaHANGZHOU NUMERAL TENsWENTYsHIRTY
  aVERTICAL IDEOGRAPHIC ITERATION MARKaMASU MARKaPART ALTERNATION MARK
  aIDEOGRAPHIC VARIATION INDICATORmHALF FILL SPACEa+2+HIRAGANA LETTER SMALL AqAqSMALL IqIqSMALL UqU
  qSMALL EqEqSMALL OqOqKAqGAqKIqGIqKUqGUqKEqGEqKOqGOqSAqZAqSIqZIqSUqZUqSEqZEqSOqZOqTAqDAqTIqDI
  qSMALL TUqTUqDUqTEqDEqTOqDOqNArIrUrErOqHAqBAqPAqHIqBIqPIqHUqBUqPUqHEqBEqPEqHOqBOqPOqMArIrUrErO
  qSMALL YAqYAqSMALL YUqYUqSMALL YOqYOqRArIrUrErOqSMALL WAqWArIrErOqNqVUqSMALL KAxE
  a+3+COMBINING KATAKANA-HIRAGANA VOICED SOUND MARKbcSEMI-VOICED SOUND MARK
  aKATAKANA-HIRAGANA VOICED SOUND MARKsSEMI-VOICED SOUND MARKaHIRAGANA ITERATION MARK
  jVOICED ITERATION MARKjDIGRAPH YORIaKATAKANA-HIRAGANA DOUBLE HYPHENi LETTER SMALL AqAqSMALL IqI
  qSMALL UqUqSMALL EqEqSMALL OqOqKAqGAqKIqGIqKUqGUqKEqGEqKOqGOqSAqZAqSIqZIqSUqZUqSEqZEqSOqZOqTAqDA
  qTIqDIqSMALL TUqTUqDUqTEqDEqTOqDOqNArIrUrErOqHAqBAqPAqHIqBIqPIqHUqBUqPUqHEqBEqPEqHOqBOqPOqMArIrUrE
  rOqSMALL YAqYAqSMALL YUqYUqSMALL YOqYOqRArIrUrErOqSMALL WAqWArIrErOqNqVUqSMALL KAxEqVArIrErO
  jMIDDLE DOTi-HIRAGANA PROLONGED SOUND MARKi ITERATION MARKjVOICED ITERATION MARKjDIGRAPH KOTO
  a+6+BOPOMOFO LETTER BqPqMqFqDqTqNqLqGqKqHqJqQqXqZHqCHqSHqRqZqCqSqAqOqErHqAIqEIqAUqOUqANqENqANGqENG
  rRqIqUqIUqVqNGqGNqIHqO WITH DOT ABOVEqNNa+2+HANGUL LETTER KIYEOKoSSANGKIYEOKoKIYEOK-SIOSoNIEUN
  t-CIEUCuHIEUHoTIKEUToSSANGTIKEUToRIEULt-KIYEOKuMIEUMuPIEUPuSIOSuTHIEUTHuPHIEUPHuHIEUHoMIEUMoPIEUP
  oSSANGPIEUPoPIEUP-SIOSoSIOSpSANGSIOSoIEUNGoCIEUCoSSANGCIEUCoCHIEUCHoKHIEUKHoTHIEUTHoPHIEUPHoHIEUH
  oApEoYAqEoEOp,oYEOq,oOoWAqEoOEoYOoUoWEOq,pIoYUoEUoYIoIhFILLERhLETTER SSANGNIEUNoNIEUN-TIKEUTuSIOS
  uPANSIOSoRIEUL-KIYEOK-SIOSuTIKEUTuPIEUP-SIOSvANSIOSuYEORINHIEUHoMIEUM-PIEUPuSIOSuPANSIOS
  oKAPYEOUNMIEUMoPIEUP-KIYEOKuTIKEUTuSIOS-KIYEOKzTIKEUTuCIEUCuTHIEUTHoKAPYEOUNPIEUPwSSANGPIEUP
  oSIOS-KIYEOKtNIEUNtTIKEUTtPIEUPtCIEUCoPANSIOSoSSANGIEUNGoYESIEUNGw-SIOSxPANSIOSoKAPYEOUNPHIEUPH
  oSSANGHIEUHoYEORINHIEUHpO-YAtErIpU-YEOt,rIoARAEAtEa+2+IDEOGRAPHIC ANNOTATION LINKING MARK
  xREVERSE MARKxONE MARKxTWO MARKyHREE MARKxFOUR MARKxTOP MARKxMIDDLE MARKxBOTTOM MARKxFIRST MARK
  xSECOND MARKxTHIRD MARKxFOURTH MARKxHEAVEN MARKxEARTH MARKxMAN MARKaBOPOMOFO LETTER BUqZIqJIqGUqEE
  rNNqOOrNNqIRqANNqINNqUNNqIMqNGGqAINNrUNNrMqOMrNGqINNNjFINAL LETTER PwTwKwHjLETTER GHqLHqZY
  jFINAL LETTER GjLETTER GWqKWqOEqAHaCJK STROKE TlWGlXGlBXGlSWlHZZnGmPmZWGlSZWGlHZTnZPmPWGmZWnZZlNlH
  lSlPlSPlDlHZmGlSZmWZmTmGlPDmZlTNlSZZmWGlHXWGmZZZGlPGlQa+d+KATAKANA LETTER SMALL KUwSIxUwTOwNUwHAxI
  xUxExOwMUwRAxIxUxExOaPARENTHESIZED HANGUL KIYEOKvNIEUNvTIKEUTvRIEULvMIEUMvPIEUPvSIOSvIEUNGvCIEUC
  wHIEUCHvKHIEUKHvTHIEUTHvPHIEUPHvHIEUHvKIYEOK AvNIEUN AvTIKEUT AvRIEUL AvMIEUM AvPIEUP AvSIOS A
  vIEUNG AvCIEUC AwHIEUCH AvKHIEUKH AvTHIEUTH AvPHIEUPH AvHIEUH AvCIEUC UoKOREAN CHARACTER OJEON
  bg HUo+2+IDEOGRAPH ONEyTWOzHREEyFOURzIVEySIXzEVENyEIGHTyNINEyTENyMOONyFIREyWATERzOODyMETALyEARTH
  ySUNzTOCKyHAVEySOCIETYyNAMEySPECIALyFINANCIALyCONGRATULATIONyLABORyREPRESENTyCALLySTUDYzUPERVISE
  yENTERPRISEyRESOURCEyALLIANCEyFESTIVALyRESTySELFyREACHaCIRCLED IDEOGRAPH QUESTIONsKINDERGARTEN
  sSCHOOLsKOTOiNUMBER TEN ON BLACK SQUAREqWENTY ON BLACK SQUAREqHIRTY ON BLACK SQUARE
  pFORTY ON BLACK SQUAREqIFTY ON BLACK SQUAREpSIXTY ON BLACK SQUAREqEVENTY ON BLACK SQUARE
  pEIGHTY ON BLACK SQUAREaPARTNERSHIP SIGNaCIRCLED NUMBER TWENTY ONEwTWOxHREEwFOURxIVEwSIXxEVEN
  wEIGHTwNINEqHIRTYv ONEwTWOxHREEwFOURxIVEiHANGUL KIYEOKpNIEUNpTIKEUTpRIEULpMIEUMpPIEUPpSIOSpIEUNG
  pCIEUCqHIEUCHpKHIEUKHpTHIEUTHpPHIEUPHpHIEUHpKIYEOK ApNIEUN ApTIKEUT ApRIEUL ApMIEUM ApPIEUP A
  pSIOS ApIEUNG ApCIEUC AqHIEUCH ApKHIEUKH ApTHIEUTH ApPHIEUPH ApHIEUH AiKOREAN CHARACTER CHAMKO
  zJUEUIiHANGUL IEUNG UaKOREAN STANDARD SYMBOLaCIRCLED IDEOGRAPH ONEsTWOtHREEsFOURtIVEsSIXtEVEN
  sEIGHTsNINEsTENsMOONsFIREsWATERtOODsMETALsEARTHsSUNtTOCKsHAVEsSOCIETYsNAMEsSPECIALsFINANCIAL
  sCONGRATULATIONsLABORsSECRETsMALEsFEMALEsSUITABLEsEXCELLENTsPRINTsATTENTIONsITEMsRESTsCOPYuRRECT
  sHIGHsCENTREsLOWtEFTsRIGHTsMEDICINEsRELIGIONsSTUDYtUPERVISEsENTERPRISEsRESOURCEsALLIANCEsNIGHT
  iNUMBER THIRTY SIXxEVENwEIGHTwNINEpFORTYu ONEvTWOwHREEvFOURwIVEvSIXwEVENvEIGHTvNINEqIFTY
  aIDEOGRAPHIC TELEGRAPH SYMBOL FOR JANUARYbhFEBRUARYbhMARCHbhAPRILbhMAYbhJUNEbjLYbhAUGUST
  bhSEPTEMBERbhOCTOBERbhNOVEMBERbhDECEMBERaSQUARE HGhERGiVaLIMITED LIABILITY SIGNaCIRCLED KATAKANA A
  rIrUrErOrKAsIsUsEsOrSAsIsUsEsOrTAsIsUsEsOrNAsIsUsEsOrHAsIsUsEsOrMAsIsUsEsOrYAsUsOrRAsIsUsEsOrWAsI
  sEsOaSQUARE ERA NAME REIWAhAPAATOiRUHUAiNPEAiARUhININGUjTIhUONhESUKUUDOiEKAAhONSUiOMUhKAIRIjRATTO
  kORIIhGARONjNMAiIGAjNIIhKYURIIhGIRUDAAhKIROlGURAMUlMEETORUlWATTOhGURAMUnTONhKURUZEIROkOONEiEESU
  iORUNAjOPOhSAIKURUjNTIIMUiIRINGUiENTIlOhDAASUiESIiORUhTONhNANOiOTTOhHAITUhPAASENTOkTUhBAARERU
  hPIASUTORUjKURUkOhBIRUhHUARADDOjIITOhBUSSYERUhHURANiEKUTAARUhPESOjNIHIhHERUTUhPENSUjEZIhBEETA
  hPOINTOhBORUTOhHONhPONDOhHOORUkNhMAIKUROkRUjHHAjRUKUjNSYONiIKURONjRIlBAARUiEGAlTONjETORUhYAADOkRU
  iUANhRITTORUjRAiUPIIjUBURUiEMUjNTOGENhWATTOaIDEOGRAPHIC TELEGRAPH SYMBOL FOR HOUR ZERObmONEbmTWO
  bnHREEbmFOURbnIVEbmSIXbnEVENbmEIGHTbmNINEbmTENbmELEVENbmTWELVEbnHIRTEENbmFOURTEENbnIFTEENbmSIXTEEN
  bnEVENTEENbmEIGHTEENbmNINETEENbmTWENTYbs-ONEbtTWObuHREEbtFOURaSQUARE HPAhDAhAUhBARhOVhPChDM
  j SQUAREDkCUBEDhIUhERA NAME HEISEIqSYOUWAqTAISYOUqMEIZIhCORPORATIONhPA AMPShNAhMU AiAhKAiBhMBhGB
  hCALhKCALhPFhNFhMU FkGiGhKGhHZhKHZhMHZhGHZhTHZhMU LiLhDLhKLhFMhNMhMU MiMhCMhKMhMM SQUARED
  hCM SQUAREDhM SQUAREDhKM SQUAREDhMM CUBEDhCM CUBEDhM CUBEDhKM CUBEDhM OVER Sp SQUAREDhPAhKPAhMPA
  hGPAhRADk OVER Sr SQUAREDhPShNShMU SiShPVhNVhMU ViVhKVhMV MEGAhPWhNWhMU WiWhKWhMW MEGAhK OHMhM OHM
  hAMhBQhCCiDi OVER KGiOhDBhGYhHAiPhINhKKiM CAPITALiThLMiNiOGiXhMB SMALLiILiOLhPHiMiPMiRhSRiVhWB
  hV OVER MhA OVER MaIDEOGRAPHIC TELEGRAPH SYMBOL FOR DAY ONEblTWObmHREEblFOURbmIVEblSIXbmEVEN
  blEIGHTblNINEblTENblELEVENblTWELVEbmHIRTEENblFOURTEENbmIFTEENblSIXTEENbmEVENTEENblEIGHTEEN
  blNINETEENblTWENTYbr-ONEbsTWObtHREEbsFOURbtIVEbsSIXbtEVENbsEIGHTbsNINEbmHIRTYbr-ONEaSQUARE GAL
  "

end BoundQuery.Text.CharacterName
